import DocPull.Text.Segment

/-!
# Composed normal form

A text is normalized segment by segment: every character is decomposed, the marks after each
starter are ordered by their combining class, and what can be joined is composed again.
-/
namespace DocPull.Normal

open CombiningClass Decomposition Segment

/-- A decomposed unit: a code point with its class, or a stray byte. -/
inductive Part where
  | point (c cls : Nat)
  | stray (b : UInt8)

/-- The class of a part; a stray byte is a starter. -/
def Part.cls : Part → Nat
  | point _ cls => cls
  | stray _ => 0

/-- Whether a part can join what stands before it. -/
def Part.joins : Part → Bool
  | point c _ => Segment.joins c
  | stray _ => false

/-- Whether a part lies in the block of the Hangul letters. -/
def Part.isLetter : Part → Bool
  | point c _ => leadBase ≤ c && c < leadBase + 0x100
  | stray _ => false

def toParts : TextUnit → List Part
  | .stray b => [.stray b]
  | .char c => (decompose c.toNat).map fun p => .point p (classOf p)

def ofPart : Part → TextUnit
  | .stray b => .stray b
  | .point c _ => .char (Char.ofNat c)

/-- Inserts a mark after all marks of a class that is not larger. The marks are held with the
last one first. -/
def insertMark (p : Part) : List Part → List Part
  | [] => [p]
  | q :: rest => if q.cls ≤ p.cls then p :: q :: rest else q :: insertMark p rest

/-- Orders the marks of every starter by class, keeping the order within a class. -/
def order : List Part → List Part
  | ps => go [] [] ps
where
  /-- The result so far and the marks since the last starter, both with the last one first. -/
  go (done marks : List Part) : List Part → List Part
    | [] => (marks ++ done).reverse
    | p :: rest =>
      -- A starter closes the marks before it.
      if p.cls = 0 then go (p :: marks ++ done) [] rest
      else go done (insertMark p marks) rest

/-- The syllable of two parts of one. -/
def syllable? (a b : Nat) : Option Nat :=
  if leadBase ≤ a ∧ a < leadBase + 19 ∧ vowelBase ≤ b ∧ b < vowelBase + 21 then
    some (syllableBase + ((a - leadBase) * 21 + (b - vowelBase)) * 28)
  else if isSyllable a ∧ (a - syllableBase) % 28 = 0 ∧ trailBase < b ∧ b < trailBase + 28 then
    some (a + (b - trailBase))
  else none

/-- A segment being composed: the base that parts may join, and what was written before and after
it, with the last part first. -/
structure Composing where
  before : List Part
  base : Part
  after : List Part

namespace Composing

/-- Writes a part behind the others. -/
def push (st : Composing) (p : Part) : Composing := { st with after := p :: st.after }

/-- Makes the last part written the base if it is a starter. -/
def rebase (st : Composing) : Composing :=
  match st.after with
  | q :: rest => if q.cls = 0 then ⟨rest ++ st.base :: st.before, q, []⟩ else st
  | [] => st

/-- Whether the parts after the base keep a part of the given class from it. -/
def blocked (st : Composing) (cls : Nat) : Bool :=
  match st.after with
  | q :: _ => cls ≤ q.cls
  | [] => false

/-- Joins a part to the base where the rule has a composite and nothing is between them. -/
def join (st : Composing) (rule : Nat → Nat → Option Nat) (p : Part) : Composing :=
  let st := st.rebase
  match st.base, p with
  | .point a cls, .point b _ =>
    if st.blocked p.cls then st.push p
    else
      match rule a b with
      | some c => { st with base := .point c cls }
      | none => st.push p
  | _, _ => st.push p

def parts (st : Composing) : List Part := (st.after ++ st.base :: st.before).reverse

end Composing

/-- Composes a segment from left to right. Once a Hangul letter is met behind the first part, only
syllables are formed in the rest. -/
def compose : List Part → List Part
  | [] => []
  | p :: rest => go false ⟨[], p, []⟩ rest
where
  /-- One part at a time; the flag says whether only syllables are formed. -/
  go (syllables : Bool) (st : Composing) : List Part → List Part
    | [] => st.parts
    | p :: rest =>
      let syllables := syllables || p.isLetter
      -- Once letters have begun, no other composite is looked for in the segment.
      if syllables then go true (st.join syllable? p) rest
      else if p.joins then go false (st.join composite? p) rest
      else go false (st.push p) rest

/-- How many bytes a character takes that begins with the given byte. -/
def width (b : UInt8) : Nat :=
  if b < 0xC2 then 1 else if b < 0xE0 then 2 else if b < 0xF0 then 3 else if b < 0xF8 then 4 else 1

/-- Divides a text before the first byte that begins a longer character than the text has room
for. -/
def splitCut (us : List TextUnit) : List TextUnit × List TextUnit :=
  let tail := us.drop (us.length - 3)
  let kept := go tail
  (us.take (us.length - kept.length), kept)
where
  /-- The rest of the text from that byte on. -/
  go : List TextUnit → List TextUnit
    | [] => []
    | .char _ :: rest => go rest
    | .stray b :: rest =>
      if 1 + (TextUnit.write rest).length < width b then .stray b :: rest else go rest

/-- The text in composed normal form. A character that the end of the text cuts short is left as it
is, with what follows it. -/
def compositeForm (s : Bytes) : Bytes :=
  let us := TextUnit.read s
  if us.all fun
    | .char c => c.toNat < 0xC0
    | .stray _ => true
  then s
  else
    let (whole, cut) := splitCut us
    let done := (segments whole).flatMap fun seg => compose (order (seg.flatMap toParts))
    TextUnit.write (done.map ofPart ++ cut)

end DocPull.Normal
