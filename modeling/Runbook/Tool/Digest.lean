import Runbook.Tool.Input
import Runbook.Tool.Options
import Runbook.Text.Octets

/-!
# Digests of files

Every digest mixes blocks of words in rounds: the digest of sixteen bytes, the one of twenty bytes, and
the family whose words have four or eight bytes. There are tools that write digests of files, and tools
that check files against digests written before.
-/

namespace Runbook
namespace Digest

/-!
## Blocks of words

Digests work on blocks of words. A text is filled up with one bit, zeros and its length in bits, and
cut into words of a number of bytes, the first or the last byte of a word being the highest.
-/

/-- The number that bytes make, the first one being the highest. -/
def bigNumber (s : Octets) : Nat :=
  s.foldl (fun n c => n * 256 + c.toNat) 0

/-- The bytes of a number, the highest one first. -/
def bigBytes : Nat → Nat → Octets
  | 0, _ => []
  | width + 1, n => bigBytes width (n / 256) ++ [Char.ofNat (n % 256)]

/-- A text filled up to whole blocks, with so many bytes for its length. -/
def padded
    (block lengthBytes : Nat)
    (bigEnd : Bool)
    (s : Octets) :
    Octets :=
  let zeros := (2 * block - (s.length + 1 + lengthBytes) % block) % block
  let length := bigBytes lengthBytes (8 * s.length)
  s ++ '\x80' :: List.replicate zeros '\x00' ++ if bigEnd then length else length.reverse

/-- Parts of a list of a given length. -/
def chunks
    {α : Type}
    (size : Nat) :
    Nat → List α → List (List α)
  | 0, _ => []
  | fuel + 1, s => if s.isEmpty then [] else s.take size :: chunks size fuel (s.drop size)

def words
    (width : Nat)
    (bigEnd : Bool)
    (s : Octets) :
    List Nat :=
  (chunks width (s.length + 1) s).map fun w => bigNumber (if bigEnd then w else w.reverse)

/-- The digits of a row of bytes in base sixteen. -/
def hexOf (s : Octets) : Octets :=
  s.flatMap fun c => Octets.padLeft 2 '0' (Nat.toDigits 16 c.toNat)

/-!
## The digest of sixteen bytes

Four words are mixed with each block in four rounds of sixteen steps.
-/

namespace Md5

/-- How far words are turned in each step. -/
def turns : List Nat :=
  [[7, 12, 17, 22], [5, 9, 14, 20], [4, 11, 16, 23], [6, 10, 15, 21]].flatMap fun r =>
    r ++ r ++ r ++ r

def constants : List UInt32 :=
  [ 0xd76aa478, 0xe8c7b756, 0x242070db, 0xc1bdceee, 0xf57c0faf, 0x4787c62a, 0xa8304613, 0xfd469501,
    0x698098d8, 0x8b44f7af, 0xffff5bb1, 0x895cd7be, 0x6b901122, 0xfd987193, 0xa679438e, 0x49b40821,
    0xf61e2562, 0xc040b340, 0x265e5a51, 0xe9b6c7aa, 0xd62f105d, 0x02441453, 0xd8a1e681, 0xe7d3fbc8,
    0x21e1cde6, 0xc33707d6, 0xf4d50d87, 0x455a14ed, 0xa9e3e905, 0xfcefa3f8, 0x676f02d9, 0x8d2a4c8a,
    0xfffa3942, 0x8771f681, 0x6d9d6122, 0xfde5380c, 0xa4beea44, 0x4bdecfa9, 0xf6bb4b60, 0xbebfbc70,
    0x289b7ec6, 0xeaa127fa, 0xd4ef3085, 0x04881d05, 0xd9d4d039, 0xe6db99e5, 0x1fa27cf8, 0xc4ac5665,
    0xf4292244, 0x432aff97, 0xab9423a7, 0xfc93a039, 0x655b59c3, 0x8f0ccc92, 0xffeff47d, 0x85845dd1,
    0x6fa87e4f, 0xfe2ce6e0, 0xa3014314, 0x4e0811a1, 0xf7537e82, 0xbd3af235, 0x2ad7d2bb, 0xeb86d391 ]

/-- The four words. -/
structure Mix where
  a : UInt32
  b : UInt32
  c : UInt32
  d : UInt32
  deriving Inhabited

/-- Turns a word to the left. -/
def turn (x : UInt32) (n : Nat) : UInt32 :=
  (x <<< n.toUInt32) ||| (x >>> (32 - n).toUInt32)

def step
    (block : Array UInt32)
    (m : Mix)
    (s : Nat × UInt32 × Nat) :
    Mix :=
  let (i, k, n) := s
  let (f, g) : UInt32 × Nat :=
    match i / 16 with
    | 0 => ((m.b &&& m.c) ||| (~~~m.b &&& m.d), i)
    | 1 => ((m.d &&& m.b) ||| (~~~m.d &&& m.c), (5 * i + 1) % 16)
    | 2 => (m.b ^^^ m.c ^^^ m.d, (3 * i + 5) % 16)
    | _ => (m.c ^^^ (m.b ||| ~~~m.d), (7 * i) % 16)
  ⟨m.d, m.b + turn (m.a + f + k + block.getD g 0) n, m.b, m.c⟩

def mix
    (m : Mix)
    (block : List Nat) :
    Mix :=
  let steps := (List.range 64).zip (constants.zip turns)
  let w := (block.map Nat.toUInt32).toArray
  let n := steps.foldl (step w) m
  ⟨m.a + n.a, m.b + n.b, m.c + n.c, m.d + n.d⟩

def digest (s : Octets) : Octets :=
  let blocks := chunks 16 (s.length + 2) (words 4 false (padded 64 8 false s))
  let m := blocks.foldl mix ⟨0x67452301, 0xefcdab89, 0x98badcfe, 0x10325476⟩
  [m.a, m.b, m.c, m.d].flatMap fun x => (bigBytes 4 x.toNat).reverse

end Md5

/-!
## Digests in rounds of words

The digest of twenty bytes, and the family whose words have four or eight bytes. Its constants are the
first bits behind the point of square and cube roots of primes.
-/

namespace Sha

/-! ### Twenty bytes -/

/-- Turns a word of so many bits to the left. -/
def turnLeft (bits n x : Nat) : Nat :=
  (x * Nat.pow 2 n + x / Nat.pow 2 (bits - n)) % Nat.pow 2 bits

/-- Turns a word of so many bits to the right. -/
def turnRight (bits n x : Nat) : Nat :=
  turnLeft bits (bits - n) x

/-- The bits of a word turned over. -/
def flipped (bits x : Nat) : Nat :=
  Nat.pow 2 bits - 1 - x

/-- The words of a block followed by those that arise from them, the newest first. -/
def spread
    (next : List Nat → Nat) :
    Nat → List Nat → List Nat
  | 0, w => w
  | fuel + 1, w => spread next fuel (next w :: w)

/-- The word at a place of a list. -/
def at_ (w : List Nat) (i : Nat) : Nat :=
  (w[i]?).getD 0

/-- One step of the digest of twenty bytes. -/
def step1
    (m : List Nat)
    (s : Nat × Nat) :
    List Nat :=
  let (i, w) := s
  let a := at_ m 0
  let b := at_ m 1
  let c := at_ m 2
  let d := at_ m 3
  let e := at_ m 4
  let (f, k) : Nat × Nat :=
    match i / 20 with
    | 0 => ((b &&& c) ||| (flipped 32 b &&& d), 0x5a827999)
    | 1 => (b ^^^ c ^^^ d, 0x6ed9eba1)
    | 2 => ((b &&& c) ||| (b &&& d) ||| (c &&& d), 0x8f1bbcdc)
    | _ => (b ^^^ c ^^^ d, 0xca62c1d6)
  [(turnLeft 32 5 a + f + e + k + w) % Nat.pow 2 32, a, turnLeft 32 30 b, c, d]

/-- Mixes a block into the digest of twenty bytes. -/
def mix1
    (m : List Nat)
    (block : List Nat) :
    List Nat :=
  let next (w : List Nat) : Nat := turnLeft 32 1 (at_ w 2 ^^^ at_ w 7 ^^^ at_ w 13 ^^^ at_ w 15)
  let w := (spread next 64 block.reverse).reverse
  let n := ((List.range 80).zip w).foldl step1 m
  m.zipWith (fun a b => (a + b) % Nat.pow 2 32) n

/-- The digest of twenty bytes. -/
def digest1 (s : Octets) : Octets :=
  let blocks := chunks 16 (s.length + 2) (words 4 true (padded 64 8 true s))
  (blocks.foldl mix1 [0x67452301, 0xefcdab89, 0x98badcfe, 0x10325476, 0xc3d2e1f0]).flatMap
    (bigBytes 4)

/-! ### The family -/

/-- A member of the family: the bits of its words, the bytes of a block and of a length, its constants,
how far words are turned, and what the work starts from. -/
structure Family where
  bits : Nat
  block : Nat
  lengthBytes : Nat
  constants : List Nat
  small : List Nat
  large : List Nat

/-- Three turns of a word put together, where the last one is a shift if `shifts` is set. -/
def Family.sigma
    (f : Family)
    (turns : List Nat)
    (shifts : Bool)
    (x : Nat) :
    Nat :=
  let last := at_ turns 2
  turnRight f.bits (at_ turns 0) x ^^^ turnRight f.bits (at_ turns 1) x ^^^
    (if shifts then x / Nat.pow 2 last else turnRight f.bits last x)

def Family.step
    (f : Family)
    (m : List Nat)
    (s : Nat × Nat) :
    List Nat :=
  let (k, w) := s
  let a := at_ m 0
  let b := at_ m 1
  let c := at_ m 2
  let d := at_ m 3
  let e := at_ m 4
  let g := at_ m 6
  let choice := (e &&& at_ m 5) ^^^ (flipped f.bits e &&& g)
  let major := (a &&& b) ^^^ (a &&& c) ^^^ (b &&& c)
  let t := at_ m 7 + f.sigma (f.large.drop 3) false e + choice + k + w
  let u := f.sigma (f.large.take 3) false a + major
  [(t + u) % Nat.pow 2 f.bits, a, b, c, (d + t) % Nat.pow 2 f.bits, e, at_ m 5, g]

def Family.mix
    (f : Family)
    (m : List Nat)
    (block : List Nat) :
    List Nat :=
  let next (w : List Nat) : Nat :=
    (f.sigma (f.small.drop 3) true (at_ w 1) + at_ w 6 + f.sigma (f.small.take 3) true (at_ w 14)
      + at_ w 15) % Nat.pow 2 f.bits
  let w := (spread next (f.constants.length - 16) block.reverse).reverse
  let n := (f.constants.zip w).foldl f.step m
  m.zipWith (fun a b => (a + b) % Nat.pow 2 f.bits) n

/-- The digest of a text from given words on. -/
def Family.digest
    (f : Family)
    (start : List Nat)
    (s : Octets) :
    Octets :=
  let text := padded f.block f.lengthBytes true s
  let blocks := chunks 16 (s.length + 2) (words (f.bits / 8) true text)
  (blocks.foldl f.mix start).flatMap (bigBytes (f.bits / 8))

/-- The family with words of four bytes. -/
def short : Family :=
  { bits := 32
    block := 64
    lengthBytes := 8
    constants :=
      [ 0x428a2f98, 0x71374491, 0xb5c0fbcf, 0xe9b5dba5, 0x3956c25b, 0x59f111f1, 0x923f82a4,
        0xab1c5ed5, 0xd807aa98, 0x12835b01, 0x243185be, 0x550c7dc3, 0x72be5d74, 0x80deb1fe,
        0x9bdc06a7, 0xc19bf174, 0xe49b69c1, 0xefbe4786, 0x0fc19dc6, 0x240ca1cc, 0x2de92c6f,
        0x4a7484aa, 0x5cb0a9dc, 0x76f988da, 0x983e5152, 0xa831c66d, 0xb00327c8, 0xbf597fc7,
        0xc6e00bf3, 0xd5a79147, 0x06ca6351, 0x14292967, 0x27b70a85, 0x2e1b2138, 0x4d2c6dfc,
        0x53380d13, 0x650a7354, 0x766a0abb, 0x81c2c92e, 0x92722c85, 0xa2bfe8a1, 0xa81a664b,
        0xc24b8b70, 0xc76c51a3, 0xd192e819, 0xd6990624, 0xf40e3585, 0x106aa070, 0x19a4c116,
        0x1e376c08, 0x2748774c, 0x34b0bcb5, 0x391c0cb3, 0x4ed8aa4a, 0x5b9cca4f, 0x682e6ff3,
        0x748f82ee, 0x78a5636f, 0x84c87814, 0x8cc70208, 0x90befffa, 0xa4506ceb, 0xbef9a3f7,
        0xc67178f2 ]
    small := [7, 18, 3, 17, 19, 10]
    large := [2, 13, 22, 6, 11, 25] }

/-- The family with words of eight bytes. -/
def long : Family :=
  { bits := 64
    block := 128
    lengthBytes := 16
    constants :=
      [ 0x428a2f98d728ae22, 0x7137449123ef65cd, 0xb5c0fbcfec4d3b2f, 0xe9b5dba58189dbbc,
        0x3956c25bf348b538, 0x59f111f1b605d019, 0x923f82a4af194f9b, 0xab1c5ed5da6d8118,
        0xd807aa98a3030242, 0x12835b0145706fbe, 0x243185be4ee4b28c, 0x550c7dc3d5ffb4e2,
        0x72be5d74f27b896f, 0x80deb1fe3b1696b1, 0x9bdc06a725c71235, 0xc19bf174cf692694,
        0xe49b69c19ef14ad2, 0xefbe4786384f25e3, 0x0fc19dc68b8cd5b5, 0x240ca1cc77ac9c65,
        0x2de92c6f592b0275, 0x4a7484aa6ea6e483, 0x5cb0a9dcbd41fbd4, 0x76f988da831153b5,
        0x983e5152ee66dfab, 0xa831c66d2db43210, 0xb00327c898fb213f, 0xbf597fc7beef0ee4,
        0xc6e00bf33da88fc2, 0xd5a79147930aa725, 0x06ca6351e003826f, 0x142929670a0e6e70,
        0x27b70a8546d22ffc, 0x2e1b21385c26c926, 0x4d2c6dfc5ac42aed, 0x53380d139d95b3df,
        0x650a73548baf63de, 0x766a0abb3c77b2a8, 0x81c2c92e47edaee6, 0x92722c851482353b,
        0xa2bfe8a14cf10364, 0xa81a664bbc423001, 0xc24b8b70d0f89791, 0xc76c51a30654be30,
        0xd192e819d6ef5218, 0xd69906245565a910, 0xf40e35855771202a, 0x106aa07032bbd1b8,
        0x19a4c116b8d2d0c8, 0x1e376c085141ab53, 0x2748774cdf8eeb99, 0x34b0bcb5e19b48a8,
        0x391c0cb3c5c95a63, 0x4ed8aa4ae3418acb, 0x5b9cca4f7763e373, 0x682e6ff3d6b2b8a3,
        0x748f82ee5defb2fc, 0x78a5636f43172f60, 0x84c87814a1f0ab72, 0x8cc702081a6439ec,
        0x90befffa23631e28, 0xa4506cebde82bde9, 0xbef9a3f7b2c67915, 0xc67178f2e372532b,
        0xca273eceea26619c, 0xd186b8c721c0c207, 0xeada7dd6cde0eb1e, 0xf57d4f7fee6ed178,
        0x06f067aa72176fba, 0x0a637dc5a2c898a6, 0x113f9804bef90dae, 0x1b710b35131c471b,
        0x28db77f523047d84, 0x32caab7b40c72493, 0x3c9ebe0a15c9bebc, 0x431d67c49c100d4c,
        0x4cc5d4becb3e42b6, 0x597f299cfc657e2a, 0x5fcb6fab3ad6faec, 0x6c44198c4a475817 ]
    small := [1, 8, 7, 19, 61, 6]
    large := [28, 34, 39, 14, 18, 41] }

/-- The digest of thirty-two bytes. -/
def digest256 (s : Octets) : Octets :=
  short.digest
    [ 0x6a09e667, 0xbb67ae85, 0x3c6ef372, 0xa54ff53a, 0x510e527f, 0x9b05688c, 0x1f83d9ab,
      0x5be0cd19 ] s

/-- The digest of twenty-eight bytes. -/
def digest224 (s : Octets) : Octets :=
  (short.digest
    [ 0xc1059ed8, 0x367cd507, 0x3070dd17, 0xf70e5939, 0xffc00b31, 0x68581511, 0x64f98fa7,
      0xbefa4fa4 ] s).take 28

/-- The digest of sixty-four bytes. -/
def digest512 (s : Octets) : Octets :=
  long.digest
    [ 0x6a09e667f3bcc908, 0xbb67ae8584caa73b, 0x3c6ef372fe94f82b, 0xa54ff53a5f1d36f1,
      0x510e527fade682d1, 0x9b05688c2b3e6c1f, 0x1f83d9abfb41bd6b, 0x5be0cd19137e2179 ] s

/-- The digest of forty-eight bytes. -/
def digest384 (s : Octets) : Octets :=
  (long.digest
    [ 0xcbbb9d5dc1059ed8, 0x629a292a367cd507, 0x9159015a3070dd17, 0x152fecd8f70e5939,
      0x67332667ffc00b31, 0x8eb44a8768581511, 0xdb0c2e0d64f98fa7, 0x47b5481dbefa4fa4 ] s).take 48

end Sha
end Digest

/-! ## Writing and checking digests -/

namespace Tool
namespace DigestTool

/-- A way to make digests: its name, how many bytes they have, and how they are made. -/
structure Method where
  name : String
  size : Nat
  digest : Octets → Octets

/-- A name with escapes for line ends and backslashes, and whether it has any. -/
def shownName (path : Octets) : Octets × Bool :=
  let isOdd (c : Char) : Bool := c = '\\' || c = '\n' || c = '\r'
  if !path.any isOdd then (path, false)
  else
    (path.flatMap fun c => match c with
      | '\\' => "\\\\".toList
      | '\n' => "\\n".toList
      | '\r' => "\\r".toList
      | d => [d], true)

def line
    (m : Method)
    (a : Arguments)
    (path digits : Octets) :
    Octets :=
  let stop : Octets := if a.has "z" then ['\x00'] else ['\n']
  let (name, odd) := if a.has "z" then (path, false) else shownName path
  let lead : Octets := if odd then ['\\'] else []
  if a.has "tag" then
    lead ++ m.name.toList ++ " (".toList ++ name ++ ") = ".toList ++ digits ++ stop
  else
    let mark : Char := if a.last? ["b", "t"] = some "b" then '*' else ' '
    lead ++ digits ++ [' ', mark] ++ name ++ stop

def readLine?
    (m : Method)
    (line : Octets) :
    Option (Octets × Octets) :=
  let (odd, line) := match line with
    | '\\' :: s => (true, s)
    | s => (false, s)
  let unescaped (s : Octets) : Octets :=
    if odd then
      (Octets.intercalate ['\n'] ((Text.splitOn '\x00'
        (Text.replaceAll "\\n".toList ['\x00'] s))))
    else s
  let digits := line.takeWhile fun c => c.isDigit || ('a' ≤ c.toLower && c.toLower ≤ 'f')
  match line.drop digits.length with
  | ' ' :: c :: name =>
      if digits.length = 2 * m.size && (c = ' ' || c = '*') && !name.isEmpty then
        some (digits.map Char.toLower, unescaped name)
      else none
  | _ =>
      match Text.dropPrefix? (m.name.toList ++ " (".toList) line with
      | none => none
      | some rest =>
          let back := rest.reverse.dropWhile (· ≠ ')')
          let name := (back.drop 1).reverse
          let behind := rest.drop (name.length + 1)
          match Text.dropPrefix? " = ".toList behind with
          | some digits =>
              if digits.length = 2 * m.size then some (digits.map Char.toLower, name) else none
          | none => none

/-- What was found out about the files of a list. -/
structure Findings where
  read : Nat
  malformed : Nat
  unreadable : Nat
  different : Nat
  deriving DecidableEq, Repr, Inhabited

def checkLine
    (m : Method)
    (a : Arguments)
    (f : Findings)
    (row : Octets) :
    Work Findings := do
  match readLine? m row with
  | none => return { f with malformed := f.malformed + 1 }
  | some (digits, name) => do
      let f := { f with read := f.read + 1 }
      match ← Work.readWhole name with
      | .error e => do
          if a.has "ignore" && e = .noEntry then return f
          Work.complainOf name e
          if !a.has "status" then Work.say (name ++ ": FAILED open or read\n".toList)
          return { f with unreadable := f.unreadable + 1 }
      | .ok data => do
          if Digest.hexOf (m.digest data) = digits then
            if !a.has "quiet" && !a.has "status" then Work.say (name ++ ": OK\n".toList)
            return f
          else do
            if !a.has "status" then Work.say (name ++ ": FAILED\n".toList)
            return { f with different := f.different + 1 }

/-- A warning about a number of things. -/
def warnOf
    (n : Nat)
    (one many : String) :
    Work Unit := do
  if n ≠ 0 then
    Work.warn ("WARNING: ".toList ++ Octets.ofNat n ++ ' ' :: (if n = 1 then one else many).toList)

/-- Checks the files of a list. -/
def check
    (m : Method)
    (a : Arguments)
    (path : Octets) :
    Work Unit := do
  match ← Work.readWhole path with
  | .error e => Work.complainOf path e
  | .ok data => do
      let rows := (Octets.lines data).filter fun r => r.head? ≠ some '#' && !r.isEmpty
      let f ← Work.foldAll (checkLine m a) ⟨0, 0, 0, 0⟩ rows
      if f.read = 0 then
        Work.complain ((if path = Work.dash then "'standard input'".toList
          else Quoting.shellBeforeColon path) ++ ": no properly formatted checksum lines found".toList)
      else do
        if !a.has "status" then
          warnOf f.malformed "line is improperly formatted" "lines are improperly formatted"
          warnOf f.unreadable "listed file could not be read" "listed files could not be read"
          warnOf f.different "computed checksum did NOT match" "computed checksums did NOT match"
        if f.unreadable ≠ 0 || f.different ≠ 0 || (a.has "strict" && f.malformed ≠ 0) then
          Work.setStatus 1

def forms : List OptionForm :=
  [ flag "b" ["binary"], flag "c" ["check"], flag "t" ["text"], flag "tag" ["tag"],
    flag "quiet" ["quiet"], flag "status" ["status"], flag "strict" ["strict"], flag "w" ["warn"],
    flag "ignore" ["ignore-missing"], flag "z" ["zero"] ]

/-- The tool for a way to make digests. -/
def tool (m : Method) : Tool :=
  simple 1 fun words => do
    let a ← Work.arguments forms 1 words
    Work.forAll
      (fun path => do
        if a.has "c" then check m a path
        else
          match ← Work.readWhole path with
          | .error e => Work.complainOf path e
          | .ok data => Work.say (line m a path (Digest.hexOf (m.digest data))))
      (Work.inputs a.operands)

/-- All ways to make digests, by the names of their tools. -/
def methods : List (String × Method) :=
  [ ("md5sum", ⟨"MD5", 16, Digest.Md5.digest⟩), ("sha1sum", ⟨"SHA1", 20, Digest.Sha.digest1⟩),
    ("sha224sum", ⟨"SHA224", 28, Digest.Sha.digest224⟩),
    ("sha256sum", ⟨"SHA256", 32, Digest.Sha.digest256⟩),
    ("sha384sum", ⟨"SHA384", 48, Digest.Sha.digest384⟩),
    ("sha512sum", ⟨"SHA512", 64, Digest.Sha.digest512⟩) ]

/-! ## Sums -/

/-- One step of the cyclic sum. -/
def crcStep (crc : UInt32) (byte : Nat) : UInt32 :=
  let start := crc ^^^ (byte.toUInt32 <<< 24)
  (List.range 8).foldl
    (fun (x : UInt32) _ => if x &&& 0x80000000 ≠ 0 then (x <<< 1) ^^^ 0x04c11db7 else x <<< 1) start

/-- The bytes of a number, the lowest one first, without zeros behind. -/
def lowBytes : Nat → Nat → List Nat
  | 0, _ => []
  | fuel + 1, n => if n = 0 then [] else n % 256 :: lowBytes fuel (n / 256)

/-- The cyclic sum of a text and its length. -/
def crc (s : Octets) : Nat :=
  let text := s.map Char.toNat ++ lowBytes (s.length + 1) s.length
  (~~~(text.foldl crcStep 0)).toNat

/-- Writes the cyclic sums of files. -/
def cksum : Tool :=
  simple 1 fun words => do
    let a ← Work.arguments [valued "a" ["algorithm"], flag "untagged" ["untagged"]] 1 words
    let method? := (a.value? "a").bind fun name =>
      methods.lookup (String.ofList name ++ "sum")
    let untagged := a.has "untagged"
    Work.forAll
      (fun path => do
        match ← Work.readWhole path with
        | .error e => Work.complainOf path e
        | .ok data =>
            match method? with
            | some m =>
                let options : List Given := if untagged then [] else [⟨"tag", []⟩]
                Work.say (line m ⟨options, []⟩ path (Digest.hexOf (m.digest data)))
            | none =>
                Work.say (Octets.ofNat (crc data) ++ ' ' :: Octets.ofNat data.length
                  ++ (if a.operands.isEmpty then [] else ' ' :: path) ++ ['\n']))
      (Work.inputs a.operands)

/-- Writes sums of files that turn by one bit with each byte. -/
def sum : Tool :=
  simple 1 fun words => do
    let a ← Work.arguments [flag "r" [], flag "s" ["sysv"]] 1 words
    let isOther := a.last? ["r", "s"] = some "s"
    Work.forAll
      (fun path => do
        match ← Work.readWhole path with
        | .error e => Work.complainOf path e
        | .ok data => do
            let name := if a.operands.isEmpty then [] else ' ' :: path
            if isOther then
              let total := data.foldl (fun n c => n + c.toNat) 0
              let r := total % 65536 + total % Nat.pow 2 32 / 65536
              Work.say (Octets.ofNat (r % 65536 + r / 65536) ++ ' ' ::
                Octets.ofNat ((data.length + 511) / 512) ++ name ++ ['\n'])
            else
              let turned := data.foldl
                (fun (s : Nat) c => (s / 2 + s % 2 * 32768 + c.toNat) % 65536) 0
              Work.say (Octets.padLeft 5 '0' (Octets.ofNat turned) ++ ' ' ::
                Octets.padLeft 5 ' ' (Octets.ofNat ((data.length + 1023) / 1024)) ++ name
                ++ ['\n']))
      (Work.inputs a.operands)

end DigestTool
end Tool
end Runbook
