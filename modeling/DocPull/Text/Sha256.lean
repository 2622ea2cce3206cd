import DocPull.Bytes

/-!
# SHA-256

The digest of a text: the text is padded to blocks of 64 bytes, and each block is mixed into eight
words of 32 bits in sixty-four rounds.
-/
namespace DocPull.Sha256

/-- The first words of the state. -/
def initial : List UInt32 :=
  [0x6a09e667, 0xbb67ae85, 0x3c6ef372, 0xa54ff53a, 0x510e527f, 0x9b05688c, 0x1f83d9ab, 0x5be0cd19]

/-- One word for each round. -/
def roundWords : List UInt32 :=
  [0x428a2f98, 0x71374491, 0xb5c0fbcf, 0xe9b5dba5, 0x3956c25b, 0x59f111f1, 0x923f82a4, 0xab1c5ed5,
    0xd807aa98, 0x12835b01, 0x243185be, 0x550c7dc3, 0x72be5d74, 0x80deb1fe, 0x9bdc06a7, 0xc19bf174,
    0xe49b69c1, 0xefbe4786, 0x0fc19dc6, 0x240ca1cc, 0x2de92c6f, 0x4a7484aa, 0x5cb0a9dc, 0x76f988da,
    0x983e5152, 0xa831c66d, 0xb00327c8, 0xbf597fc7, 0xc6e00bf3, 0xd5a79147, 0x06ca6351, 0x14292967,
    0x27b70a85, 0x2e1b2138, 0x4d2c6dfc, 0x53380d13, 0x650a7354, 0x766a0abb, 0x81c2c92e, 0x92722c85,
    0xa2bfe8a1, 0xa81a664b, 0xc24b8b70, 0xc76c51a3, 0xd192e819, 0xd6990624, 0xf40e3585, 0x106aa070,
    0x19a4c116, 0x1e376c08, 0x2748774c, 0x34b0bcb5, 0x391c0cb3, 0x4ed8aa4a, 0x5b9cca4f, 0x682e6ff3,
    0x748f82ee, 0x78a5636f, 0x84c87814, 0x8cc70208, 0x90befffa, 0xa4506ceb, 0xbef9a3f7, 0xc67178f2]

def rotate (x : UInt32) (n : UInt32) : UInt32 := (x >>> n) ||| (x <<< (32 - n))

/-- The text with its padding: a one bit, zeros, and the length in bits. -/
def padded (s : Bytes) : Bytes :=
  let bits := 8 * s.length
  let zeros := (119 - s.length % 64) % 64
  let length := (List.range 8).map fun i => (bits / Nat.pow 256 (7 - i) % 256).toUInt8
  s ++ 0x80 :: List.replicate zeros 0 ++ length

def words : Bytes → List UInt32
  | a :: b :: c :: d :: rest =>
    ((((a.toNat * 256 + b.toNat) * 256 + c.toNat) * 256 + d.toNat : Nat).toUInt32) :: words rest
  | _ => []

/-- The words that follow sixteen given ones, which are held with the last one first. -/
def schedule : (count : Nat) → List UInt32 → List UInt32
  | 0, ws => ws
  | n + 1, ws =>
    let at_ (i : Nat) : UInt32 := ws.getD i 0
    let x := at_ 14
    let y := at_ 1
    let s0 := rotate x 7 ^^^ rotate x 18 ^^^ (x >>> 3)
    let s1 := rotate y 17 ^^^ rotate y 19 ^^^ (y >>> 10)
    schedule n ((at_ 15 + s0 + at_ 6 + s1) :: ws)

def round (state : List UInt32) (kw : UInt32 × UInt32) : List UInt32 :=
  match state with
  | [a, b, c, d, e, f, g, h] =>
    let s1 := rotate e 6 ^^^ rotate e 11 ^^^ rotate e 25
    let choice := (e &&& f) ^^^ ((e ^^^ 0xffffffff) &&& g)
    let t1 := h + s1 + choice + kw.1 + kw.2
    let s0 := rotate a 2 ^^^ rotate a 13 ^^^ rotate a 22
    let majority := (a &&& b) ^^^ (a &&& c) ^^^ (b &&& c)
    [t1 + s0 + majority, a, b, c, d + t1, e, f, g]
  | other => other

/-- Mixes one block of sixteen words into the state. -/
def mix (state block : List UInt32) : List UInt32 :=
  let ws := (schedule 48 block.reverse).reverse
  List.zipWith (· + ·) state ((roundWords.zip ws).foldl round state)

/-- Mixes all blocks. The number of words bounds the number of blocks. -/
def mixAll : (fuel : Nat) → List UInt32 → List UInt32 → List UInt32
  | 0, state, _ => state
  | _, state, [] => state
  | fuel + 1, state, ws => mixAll fuel (mix state (ws.take 16)) (ws.drop 16)

/-- The digest of a text: thirty-two bytes. -/
def digest (s : Bytes) : Bytes :=
  let ws := words (padded s)
  (mixAll ws.length initial ws).flatMap fun (w : UInt32) =>
    [(w >>> 24).toUInt8, (w >>> 16).toUInt8, (w >>> 8).toUInt8, w.toUInt8]

end DocPull.Sha256
