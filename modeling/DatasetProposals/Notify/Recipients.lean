import DatasetProposals.Text.Blank
/-! Recipient lists. Addresses are trimmed of blanks; empty ones are dropped, and an address
equal to an earlier kept one up to the case of ASCII letters is dropped too, so the first
spelling seen is the one kept. -/
namespace DatasetProposals

def asciiLower (s : String) : String :=
  String.map (fun c => if 'A' ≤ c && c ≤ 'Z' then Char.ofNat (c.toNat + 32) else c) s

def sameIgnoringAsciiCase (a b : String) : Bool := asciiLower a == asciiLower b

def normalizeRecipients (addresses : List String) : List String :=
  let rec go : List String → List String → List String
    | [], kept => kept.reverse
    | a :: rest, kept =>
      let t := Text.trim a
      if t.isEmpty || kept.any (sameIgnoringAsciiCase · t) then go rest kept
      else go rest (t :: kept)
  go addresses []

end DatasetProposals
