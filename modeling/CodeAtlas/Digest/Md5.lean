import CodeAtlas.Text.Quoted

/-!
# MD5 digests

The digest works on blocks of sixteen words of 32 bits, least significant byte first. Identifiers of
elements are digests of texts in UTF-8, written with 32 hexadecimal digits.
-/

namespace CodeAtlas.Digest

/-- How far each of the 64 steps rotates. -/
def shifts : Array UInt32 :=
  #[7, 12, 17, 22, 7, 12, 17, 22, 7, 12, 17, 22, 7, 12, 17, 22,
    5, 9, 14, 20, 5, 9, 14, 20, 5, 9, 14, 20, 5, 9, 14, 20,
    4, 11, 16, 23, 4, 11, 16, 23, 4, 11, 16, 23, 4, 11, 16, 23,
    6, 10, 15, 21, 6, 10, 15, 21, 6, 10, 15, 21, 6, 10, 15, 21]

/-- The additive constants: the integer parts of `2 ^ 32 * |sin (i + 1)|`. -/
def sines : Array UInt32 :=
  #[0xd76aa478, 0xe8c7b756, 0x242070db, 0xc1bdceee, 0xf57c0faf, 0x4787c62a, 0xa8304613, 0xfd469501,
    0x698098d8, 0x8b44f7af, 0xffff5bb1, 0x895cd7be, 0x6b901122, 0xfd987193, 0xa679438e, 0x49b40821,
    0xf61e2562, 0xc040b340, 0x265e5a51, 0xe9b6c7aa, 0xd62f105d, 0x02441453, 0xd8a1e681, 0xe7d3fbc8,
    0x21e1cde6, 0xc33707d6, 0xf4d50d87, 0x455a14ed, 0xa9e3e905, 0xfcefa3f8, 0x676f02d9, 0x8d2a4c8a,
    0xfffa3942, 0x8771f681, 0x6d9d6122, 0xfde5380c, 0xa4beea44, 0x4bdecfa9, 0xf6bb4b60, 0xbebfbc70,
    0x289b7ec6, 0xeaa127fa, 0xd4ef3085, 0x04881d05, 0xd9d4d039, 0xe6db99e5, 0x1fa27cf8, 0xc4ac5665,
    0xf4292244, 0x432aff97, 0xab9423a7, 0xfc93a039, 0x655b59c3, 0x8f0ccc92, 0xffeff47d, 0x85845dd1,
    0x6fa87e4f, 0xfe2ce6e0, 0xa3014314, 0x4e0811a1, 0xf7537e82, 0xbd3af235, 0x2ad7d2bb, 0xeb86d391]

/-- The four words that the digest is made of. -/
structure Words where
  a : UInt32
  b : UInt32
  c : UInt32
  d : UInt32

/-- The words that every digest starts from. -/
def Words.initial : Words :=
  ⟨0x67452301, 0xefcdab89, 0x98badcfe, 0x10325476⟩

/-- Rotation to the left. -/
def rotate (x s : UInt32) : UInt32 :=
  (x <<< s) ||| (x >>> (32 - s))

/-- One of the 64 steps on a block. -/
def Words.step (block : Array UInt32) (w : Words) (i : Nat) : Words :=
  let (f, g) :=
    if i < 16 then ((w.b &&& w.c) ||| (~~~w.b &&& w.d), i)
    else if i < 32 then ((w.d &&& w.b) ||| (~~~w.d &&& w.c), (5 * i + 1) % 16)
    else if i < 48 then (w.b ^^^ w.c ^^^ w.d, (3 * i + 5) % 16)
    else (w.c ^^^ (w.b ||| ~~~w.d), (7 * i) % 16)
  let sum := f + w.a + sines.getD i 0 + block.getD g 0
  ⟨w.d, w.b + rotate sum (shifts.getD i 0), w.b, w.c⟩

/-- Mixes a block into the digest. -/
def Words.absorb (w : Words) (block : Array UInt32) : Words :=
  let r := (List.range 64).foldl (Words.step block) w
  ⟨w.a + r.a, w.b + r.b, w.c + r.c, w.d + r.d⟩

/-- A number's bytes, least significant first. -/
def littleEndian : Nat → Nat → List UInt8
  | 0, _ => []
  | width + 1, n => UInt8.ofNat (n % 256) :: littleEndian width (n / 256)

/-- The message with the mark of its end, zeros up to the last eight bytes of a block, and its length
in bits. -/
def padded (bytes : List UInt8) : List UInt8 :=
  let zeros := (119 - bytes.length % 64) % 64
  bytes ++ 0x80 :: List.replicate zeros 0 ++ littleEndian 8 (8 * bytes.length)

/-- A word of four bytes. -/
def word (b₀ b₁ b₂ b₃ : UInt8) : UInt32 :=
  b₀.toUInt32 ||| (b₁.toUInt32 <<< 8) ||| (b₂.toUInt32 <<< 16) ||| (b₃.toUInt32 <<< 24)

/-- The words of a list of bytes; bytes short of a word are left out. -/
def wordsOf : List UInt8 → List UInt32
  | b₀ :: b₁ :: b₂ :: b₃ :: bs => word b₀ b₁ b₂ b₃ :: wordsOf bs
  | _ => []

/-- The blocks of sixteen words, at most `n` of them. -/
def blocksOf : Nat → List UInt32 → List (Array UInt32)
  | 0, _ => []
  | n + 1, ws => if ws.isEmpty then [] else (ws.take 16).toArray :: blocksOf n (ws.drop 16)

/-- The hexadecimal digits of a word, byte by byte. -/
def wordText (w : UInt32) : List Char :=
  (littleEndian 4 w.toNat).flatMap fun b => Text.hexText 2 b.toNat

/-- The MD5 digest of a list of bytes in hexadecimal. -/
def md5 (bytes : List UInt8) : List Char :=
  let words := wordsOf (padded bytes)
  let w := (blocksOf words.length words).foldl Words.absorb Words.initial
  wordText w.a ++ wordText w.b ++ wordText w.c ++ wordText w.d

/-- The digest of a text. -/
def ofText (s : String) : String :=
  String.ofList (md5 s.toUTF8.toList)

end CodeAtlas.Digest
