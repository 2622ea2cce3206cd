import DocPull.Text.Decomposition

/-!
# Segments of a text

A segment is a starter with all that attaches to it: marks, and letters that can join what stands
before them. Nothing is ordered or joined across segments. Long segments are broken: once more than
thirty code points attach, a joiner that combines with nothing ends the segment, so that no starter
carries an unbounded number of marks. Stray bytes are starters.
-/
namespace DocPull.Segment

open CombiningClass Decomposition

/-- The first Hangul syllable, and the first leading, vowel and trailing letters. -/
def syllableBase : Nat := 0xAC00
def leadBase : Nat := 0x1100
def vowelBase : Nat := 0x1161
def trailBase : Nat := 0x11A7

def isSyllable (c : Nat) : Bool := syllableBase ≤ c && c < syllableBase + 11172

def letters (c : Nat) : List Nat :=
  let n := c - syllableBase
  let head := [leadBase + n / 588, vowelBase + n % 588 / 28]
  if n % 28 = 0 then head else head ++ [trailBase + n % 28]

/-- The full canonical decomposition of a code point. The tables nest at most four deep. -/
def decompose (c : Nat) : List Nat := go 4 c
where
  /-- Decomposes as many levels as the first argument allows. -/
  go : Nat → Nat → List Nat
    | 0, c => [c]
    | depth + 1, c =>
      if isSyllable c then letters c
      else
        match parts? c with
        | some ps => ps.flatMap (go depth)
        | none => [c]

/-- Whether a code point can join what stands before it into one code point. -/
def joins (c : Nat) : Bool :=
  (vowelBase ≤ c && c < vowelBase + 21) || (trailBase ≤ c && c < trailBase + 28) || isSecond c

/-- Whether a code point belongs to what stands before it. -/
def attaches (c : Nat) : Bool := classOf c ≠ 0 || joins c

/-- Code points that attach only as their compatibility decomposition does: halfwidth and
compatibility letters, which stand for one letter that joins what stands before it. -/
def leadEntries : List Nat :=
  [0x3133_03133_00001, 0x3135_03136_00001, 0x313A_0313F_00001, 0x314F_03163_00001,
    0xFF9E_0FF9F_00001, 0xFFA3_0FFA3_00001, 0xFFA5_0FFA6_00001, 0xFFAA_0FFAF_00001,
    0xFFC2_0FFC7_00001, 0xFFCA_0FFCF_00001, 0xFFD2_0FFD7_00001, 0xFFDA_0FFDC_00001]

/-- Starters whose compatibility decomposition ends with more attaching code points than the
canonical one, and how many. -/
def trailEntries : List Nat :=
  [0xA8_000A8_00001, 0xAF_000AF_00001, 0xB4_000B4_00001, 0xB8_000B8_00001, 0x1C4_001C6_00001,
    0x2D8_002DD_00001, 0x37A_0037A_00001, 0x384_00384_00001, 0x385_00385_00002, 0xF77_00F77_00002,
    0xF79_00F79_00002, 0x1FBD_01FBD_00001, 0x1FBF_01FC0_00001, 0x1FC1_01FC1_00002,
    0x1FCD_01FCF_00002, 0x1FDD_01FDF_00002, 0x1FED_01FEE_00002, 0x1FFD_01FFE_00001,
    0x2017_02017_00001, 0x203E_0203E_00001, 0x309B_0309C_00001, 0x326E_0327E_00001,
    0x3304_03304_00001, 0x3307_03307_00001, 0x3310_03310_00001, 0x331E_0331E_00001,
    0x3321_03321_00001, 0x3332_03332_00001, 0x333B_0333B_00001, 0x3340_03340_00001,
    0x334B_0334B_00001, 0x334E_0334E_00001, 0xFBA4_0FBA5_00001, 0xFBB0_0FBB1_00001,
    0xFC5B_0FC5D_00001, 0xFC5E_0FC63_00002, 0xFC90_0FC90_00001, 0xFCD9_0FCD9_00001,
    0xFCF2_0FCF4_00002, 0xFD3C_0FD3D_00001, 0xFE49_0FE4C_00001, 0xFE70_0FE72_00001,
    0xFE74_0FE74_00001, 0xFE76_0FE7F_00001, 0xFE81_0FE8C_00001, 0xFEF5_0FEFA_00001,
    0xFFE3_0FFE3_00001, 0x1F213_1F213_00001]

/-- How many code points attach, beside ranges that differ from their canonical decompositions. -/
def leads : Array (Nat × Nat × Nat) := (leadEntries.map Lookup.unpack).toArray

/-- How many code points attach at the end, beside such ranges. -/
def trails : Array (Nat × Nat × Nat) := (trailEntries.map Lookup.unpack).toArray

/-- How many code points at the start of a unit attach to what stands before it. -/
def leading : TextUnit → Nat
  | .stray _ => 0
  | .char c =>
    if c.toNat < 0xA0 then 0
    else (Lookup.within? leads c.toNat).getD ((decompose c.toNat).takeWhile attaches).length

/-- How many code points at the end of a unit attach to what stands before them. -/
def trailing : TextUnit → Nat
  | .stray _ => 0
  | .char c =>
    if c.toNat < 0xA0 then 0
    else
      let parts := decompose c.toNat
      (Lookup.within? trails c.toNat).getD (parts.reverse.takeWhile attaches).length

/-- The largest number of attaching code points in a segment. -/
def maxMarks : Nat := 30

/-- The joiner that ends a segment with too many marks. -/
def joiner : TextUnit := .char '\u034f'

/-- Cuts a text into its segments. -/
def segments (us : List TextUnit) : List (List TextUnit) := go [] [] 0 us
where
  /-- The segments so far and the current one, both with the last item first, and how many code
  points attach at the end of the current one. -/
  go (done : List (List TextUnit)) (current : List TextUnit) (marks : Nat) :
      List TextUnit → List (List TextUnit)
    | [] => (current.reverse :: done).reverse
    | u :: rest =>
      let n := leading u
      if n = 0 then go (current.reverse :: done) [u] (trailing u) rest
      -- The text may carry any number of marks; a segment may not.
      else if marks + n > maxMarks then go ((joiner :: current).reverse :: done) [u] n rest
      else go done (u :: current) (marks + n) rest

end DocPull.Segment
