import DatasetProposals.Signing.Sha256
/-! Time-limited URLs for files in object storage, signed with SHA-256 and percent-encoded segment
by segment. -/
namespace DatasetProposals

def base64UrlAlphabet : List Char :=
  "ABCDEFGHIJKLMNOPQRSTUVWXYZabcdefghijklmnopqrstuvwxyz0123456789-_".toList

def base64UrlDigit (n : Nat) : Char := base64UrlAlphabet.getD n 'A'

def base64Url : List UInt8 → String
  | a :: b :: c :: rest =>
    let n := a.toNat * 65536 + b.toNat * 256 + c.toNat
    String.ofList [base64UrlDigit (n / 262144), base64UrlDigit (n / 4096 % 64),
      base64UrlDigit (n / 64 % 64), base64UrlDigit (n % 64)] ++ base64Url rest
  | [a, b] =>
    let n := a.toNat * 65536 + b.toNat * 256
    String.ofList [base64UrlDigit (n / 262144), base64UrlDigit (n / 4096 % 64),
      base64UrlDigit (n / 64 % 64)]
  | [a] =>
    let n := a.toNat * 65536
    String.ofList [base64UrlDigit (n / 262144), base64UrlDigit (n / 4096 % 64)]
  | [] => ""

def isUnreserved (b : UInt8) : Bool :=
  (65 ≤ b && b ≤ 90) || (97 ≤ b && b ≤ 122) || (48 ≤ b && b ≤ 57) ||
    b == 45 || b == 95 || b == 46 || b == 126

def upperHexDigit (n : Nat) : Char :=
  if n < 10 then Char.ofNat (48 + n) else Char.ofNat (55 + n)

def percentEscape (b : UInt8) : String :=
  if isUnreserved b then (Char.ofNat b.toNat).toString
  else String.ofList ['%', upperHexDigit (b.toNat / 16), upperHexDigit (b.toNat % 16)]

def percentEncode (s : String) : String := String.join (s.toUTF8.toList.map percentEscape)

def keySegments (key : String) : List String := (key.toList.splitOn '/').map String.ofList

def int64Max : Int := 9223372036854775807

def int64Min : Int := -9223372036854775808

def saturatingAdd (a b : Int) : Int := max int64Min (min int64Max (a + b))

def wrappingAdd (a b : Int) : Int :=
  let m : Int := 18446744073709551616
  let r := (a + b - int64Min) % m
  r + int64Min

/-- Signs URLs for one file server with one secret. The base URL is kept without trailing
slashes. -/
structure UrlSigner where
  baseUrl : String
  secret : String
  deriving Repr, Inhabited

namespace UrlSigner

def trimTrailingSlashes (s : String) : String :=
  String.ofList (s.toList.reverse.dropWhile (· == '/')).reverse

def make (baseUrl secret : String) : UrlSigner := ⟨trimTrailingSlashes baseUrl, secret⟩

def signature (s : UrlSigner) (bucket key : String) (expires : Int) : String :=
  base64Url (Sha256.hash (s.secret ++ "\n" ++ bucket ++ "\n" ++ key ++ "\n" ++ toString expires).toUTF8.toList)

def verify (s : UrlSigner) (bucket key : String) (expires : Int) (sig : String) (now : Int) : Bool :=
  decide (expires ≥ now) && s.signature bucket key expires == sig

def presign (s : UrlSigner) (bucket key : String) (lifetime : Nat) (now : Int) : String :=
  if bucket.isEmpty || key.isEmpty then ""
  else
    let expires := saturatingAdd now (min (lifetime : Int) int64Max)
    let path := "/".intercalate ((keySegments key).map percentEncode)
    s.baseUrl ++ "/" ++ percentEncode bucket ++ "/" ++ path ++ "?expires=" ++ toString expires ++
      "&signature=" ++ s.signature bucket key expires

end UrlSigner

end DatasetProposals
