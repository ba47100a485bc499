import QueryGateway.Text.Hex
import QueryGateway.Text.Split

/-!
# Network addresses

## Main definitions

* `Text.isIpv4`, `Text.isIpv6` — the numeric addresses of hosts.
-/

namespace QueryGateway.Text

/-- Whether a text is a byte in decimal digits, without zeros in front. -/
def isOctet (cs : List Char) : Bool :=
  cs ≠ [] && cs.length ≤ 3 && cs.all Char.isDigit && (cs.length = 1 || cs.head? ≠ some '0') &&
    cs.foldl (fun n c => 10 * n + (c.toNat - 48)) 0 ≤ 255

/-- Whether a text is four bytes with points between them. -/
def isIpv4 (cs : List Char) : Bool :=
  let parts := splitChars '.' cs
  parts.length = 4 && parts.all isOctet

/-- Whether a text is a group of up to four hex digits. -/
def isHexGroup (cs : List Char) : Bool :=
  cs ≠ [] && cs.length ≤ 4 && cs.all fun c => (Hex.value? c).isSome

/-- How many groups a text between colons stands for; the last one may be four bytes, which stand for
two groups. -/
def groupCount? : List (List Char) → Option Nat
  | [] => some 0
  | [last] => if isHexGroup last then some 1 else if isIpv4 last then some 2 else none
  | group :: rest => if isHexGroup group then (groupCount? rest).map (· + 1) else none

/-- The groups of a part of an address, which may be empty. -/
def partCount? (cs : List Char) : Option Nat :=
  if cs = [] then some 0 else groupCount? (splitChars ':' cs)

/-- The texts before and after the first two colons that follow each other. -/
def splitGap? : List Char → Option (List Char × List Char)
  | [] => none
  | ':' :: ':' :: rest => some ([], rest)
  | c :: rest => (splitGap? rest).map fun (before, after) => (c :: before, after)

/-- Whether a text is eight groups with colons between them, where two colons may stand for some
groups of zeros. -/
def isIpv6 (cs : List Char) : Bool :=
  match splitGap? cs with
  | none => groupCount? (splitChars ':' cs) == some 8
  | some (before, after) =>
    match (splitChars ':' before).all isHexGroup || before = [], partCount? before,
      partCount? after with
    | true, some n, some m => n + m ≤ 7
    | _, _, _ => false

end QueryGateway.Text
