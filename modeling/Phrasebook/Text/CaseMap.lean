/-!
# Phrasebook.Text.CaseMap

Case mappings of single characters.

Most mapped code points come in runs that share one distance to their images (`a` to `z`, or every
second code point of a range where capital and small letters alternate); a few map to several
characters and are listed on their own.  A code point that neither part mentions maps to itself.
-/

namespace Phrasebook.Text

/-- The code points `first`, `first + step`, …, `last`, each mapped to the one `shift` further
on. -/
structure CaseRun where
  first : Nat
  last : Nat
  step : Nat
  shift : Int

namespace CaseRun

/-- Whether a run maps the code point `n`. -/
def maps (r : CaseRun) (n : Nat) : Bool :=
  r.first ≤ n && n ≤ r.last && (n - r.first) % r.step == 0

/-- The image of the code point `n`. -/
def image (r : CaseRun) (n : Nat) : Nat := (n + r.shift).toNat

end CaseRun

/-- A case mapping: runs in ascending order, and the code points that map to several. -/
structure CaseMap where
  runs : List CaseRun
  special : List (Nat × List Nat)

namespace CaseMap

/-- The image of `n` under the first run that maps it; runs beyond `n` are not looked at. -/
def findRun? (n : Nat) : List CaseRun → Option Nat
  | [] => none
  | r :: rest =>
    if n < r.first then none
    else if r.maps n then some (r.image n)
    else findRun? n rest

/-- The characters that a character is mapped to. -/
def apply (m : CaseMap) (c : Char) : List Char :=
  match findRun? c.toNat m.runs with
  | some n => [Char.ofNat n]
  | none =>
    if c.toNat < 0x80 then [c]
    else
      match m.special.lookup c.toNat with
      | some image => image.map Char.ofNat
      | none => [c]

end CaseMap

end Phrasebook.Text
