import DatasetProposals.Signing.Url
import DatasetProposals.Http.Form
import Mathlib.Data.List.TakeWhile
/-! Presigned URLs read back and verify until they expire. Main statement:
`presigned_url_reads_back`. -/
namespace DatasetProposals

/-! Characters below 128 are one byte each. -/

theorem ofNat_val_of_lt {n : Nat} (small : n < 128) : (Char.ofNat n).val = n.toUInt32 := by
  have valid : n.isValidChar := Or.inl (by omega)
  rw [Char.ofNat, dif_pos valid]
  apply UInt32.toNat_inj.mp
  -- the character's code is `n` itself, by computation
  have code : (Char.ofNatAux n valid).val.toNat = n := rfl
  rw [code]
  simp
  omega

theorem ofNat_val_le_of_lt {n : Nat} (small : n < 128) : (Char.ofNat n).val ≤ 127 := by
  rw [ofNat_val_of_lt small, UInt32.le_iff_toNat_le]
  simp
  omega

theorem toUInt8_charOfNat (b : UInt8) (small : b.toNat < 128) : (Char.ofNat b.toNat).val.toUInt8 = b := by
  rw [ofNat_val_of_lt small]
  simp

theorem isUnreserved_lt {b : UInt8} (h : isUnreserved b = true) : b.toNat < 128 := by
  simp [isUnreserved, UInt8.le_iff_toNat_le, ← UInt8.toNat_inj] at h
  omega

theorem upperHexDigit_facts : ∀ n < 16, (upperHexDigit n).val ≤ 127 ∧
    Http.hexDigitValue? (upperHexDigit n).val.toUInt8 = some n ∧
    upperHexDigit n ≠ '/' ∧ upperHexDigit n ≠ '?' := by
  decide

/-! Percent-encoding, byte by byte, and its inverse. -/

theorem percentEscape_toList (b : UInt8) : (percentEscape b).toList =
    if isUnreserved b then [Char.ofNat b.toNat]
    else ['%', upperHexDigit (b.toNat / 16), upperHexDigit (b.toNat % 16)] := by
  unfold percentEscape
  split <;> simp

theorem ascii_bytes {l : List Char} (ascii : ∀ c ∈ l, c.val ≤ 127) :
    l.flatMap String.utf8EncodeChar = l.map (·.val.toUInt8) := by
  induction l with
  | nil => rfl
  | cons c l ih =>
    rw [List.flatMap_cons, List.map_cons,
      String.utf8EncodeChar_eq_singleton (Char.utf8Size_eq_one_iff.mpr (ascii c (by simp))),
      ih fun d mem => ascii d (List.mem_cons_of_mem c mem)]
    rfl

theorem percentEscape_bytes (b : UInt8) :
    (percentEscape b).toList.flatMap String.utf8EncodeChar =
      if isUnreserved b then [b]
      else [37, (upperHexDigit (b.toNat / 16)).val.toUInt8,
        (upperHexDigit (b.toNat % 16)).val.toUInt8] := by
  have byte := b.toNat_lt
  have high := upperHexDigit_facts (b.toNat / 16) (by omega)
  have low := upperHexDigit_facts (b.toNat % 16) (by omega)
  rw [percentEscape_toList]
  split
  · next unreserved =>
    have small := isUnreserved_lt unreserved
    rw [ascii_bytes (by simp [ofNat_val_le_of_lt small])]
    simp only [List.map_cons, List.map_nil, toUInt8_charOfNat b small]
  · rw [ascii_bytes (by simp [high.1, low.1])]
    rfl

theorem percentDecode_escape (b : UInt8) (rest : List UInt8) :
    Http.percentDecode ((percentEscape b).toList.flatMap String.utf8EncodeChar ++ rest) =
      b :: Http.percentDecode rest := by
  rw [percentEscape_bytes]
  split
  · next unreserved =>
    have other : b ≠ 37 := by
      rintro rfl
      exact absurd unreserved (by decide)
    exact Http.percentDecode.eq_3 b rest fun _ _ _ percent => absurd percent other
  · -- the two digits carry the high and the low four bits
    have byte := b.toNat_lt
    obtain ⟨-, high, -⟩ := upperHexDigit_facts (b.toNat / 16) (by omega)
    obtain ⟨-, low, -⟩ := upperHexDigit_facts (b.toNat % 16) (by omega)
    rw [List.cons_append, List.cons_append, List.cons_append, List.nil_append,
      Http.percentDecode.eq_2, high, low]
    dsimp only
    congr 1
    apply UInt8.toNat_inj.mp
    simp
    omega

theorem bytes_toList (bs : ByteArray) : bs.toList = bs.data.toList := by
  suffices walk : ∀ i r, ByteArray.toList.loop bs i r = r.reverse ++ bs.data.toList.drop i by
    simpa [ByteArray.toList] using walk 0 []
  intro i r
  fun_induction ByteArray.toList.loop bs i r with
  | case1 i r more ih =>
    have inside : i < bs.data.toList.length := by simpa using more
    rw [ih, List.drop_eq_getElem_cons inside]
    simp [ByteArray.get!, more]
  | case2 i r done =>
    rw [List.drop_eq_nil_of_le (by simpa using Nat.le_of_not_lt done)]
    simp

theorem toUTF8_toList (s : String) : s.toUTF8.toList = s.toList.flatMap String.utf8EncodeChar := by
  rw [bytes_toList, String.toUTF8_eq_toByteArray, ← String.utf8Encode_toList, List.utf8Encode,
    List.toList_data_toByteArray]

def percentDecodeText (s : String) : Option String :=
  String.fromUTF8? (Http.percentDecode s.toUTF8.toList).toByteArray

theorem percentEncode_bytes (s : String) :
    (percentEncode s).toUTF8.toList =
      s.toUTF8.toList.flatMap fun b => (percentEscape b).toList.flatMap String.utf8EncodeChar := by
  rw [toUTF8_toList (percentEncode s), percentEncode, String.toList_join, List.flatMap_map,
    List.flatMap_assoc]

theorem percentDecode_flatMap_escape (bytes : List UInt8) :
    Http.percentDecode (bytes.flatMap fun b => (percentEscape b).toList.flatMap String.utf8EncodeChar) =
      bytes := by
  induction bytes with
  | nil => rw [List.flatMap_nil, Http.percentDecode.eq_1]
  | cons b bytes ih => rw [List.flatMap_cons, percentDecode_escape, ih]

theorem fromUTF8?_toUTF8 (s : String) : String.fromUTF8? s.toUTF8.toList.toByteArray = some s := by
  have same : s.toUTF8.toList.toByteArray = s.toByteArray := by
    apply ByteArray.ext
    apply Array.toList_inj.mp
    rw [List.toList_data_toByteArray, bytes_toList, String.toUTF8_eq_toByteArray]
  rw [same]
  simp [String.fromUTF8?, s.isValidUTF8, String.fromUTF8]

theorem percentDecodeText_percentEncode (s : String) : percentDecodeText (percentEncode s) = some s := by
  rw [percentDecodeText, percentEncode_bytes, percentDecode_flatMap_escape, fromUTF8?_toUTF8]

theorem toNat_ofNat_of_lt {n : Nat} (small : n < 128) : (Char.ofNat n).toNat = n := by
  rw [Char.toNat, ofNat_val_of_lt small]
  simp
  omega

theorem mem_percentEncode {s : String} {c : Char} (mem : c ∈ (percentEncode s).toList) :
    c ≠ '/' ∧ c ≠ '?' := by
  rw [percentEncode, String.toList_join, List.mem_flatMap] at mem
  obtain ⟨piece, escaped, inPiece⟩ := mem
  obtain ⟨b, -, rfl⟩ := List.mem_map.mp escaped
  rw [percentEscape_toList] at inPiece
  split at inPiece
  · next unreserved =>
    rw [List.mem_singleton] at inPiece
    subst inPiece
    have small := isUnreserved_lt unreserved
    have other : b.toNat ≠ 47 ∧ b.toNat ≠ 63 := by
      simp [isUnreserved, UInt8.le_iff_toNat_le, ← UInt8.toNat_inj] at unreserved
      omega
    constructor <;> intro same <;> have code := congrArg Char.toNat same <;>
      rw [toNat_ofNat_of_lt small] at code
    · exact other.1 code
    · exact other.2 code
  · have byte := b.toNat_lt
    obtain ⟨-, -, highSlash, highQuery⟩ := upperHexDigit_facts (b.toNat / 16) (by omega)
    obtain ⟨-, -, lowSlash, lowQuery⟩ := upperHexDigit_facts (b.toNat % 16) (by omega)
    simp only [List.mem_cons, List.not_mem_nil, or_false] at inPiece
    rcases inPiece with rfl | rfl | rfl
    · decide
    · exact ⟨highSlash, highQuery⟩
    · exact ⟨lowSlash, lowQuery⟩

/-! Reading a URL back. -/

def pathUnder (base url : String) : Option String :=
  let front := base.toList ++ ['/']
  if front.isPrefixOf url.toList then
    some (String.ofList ((url.toList.drop front.length).takeWhile (· != '?')))
  else none

def locationOfPath (path : String) : Option (String × String) :=
  match (path.toList.splitOn '/').map String.ofList with
  | first :: segments => do
    let bucket ← percentDecodeText first
    let keySegments ← segments.mapM percentDecodeText
    pure (bucket, "/".intercalate keySegments)
  | [] => none

def readLocation (base url : String) : Option (String × String) :=
  (pathUnder base url).bind locationOfPath

theorem pathUnder_eq {base url path : String} {rest : List Char}
    (parts : url.toList = base.toList ++ ['/'] ++ (path.toList ++ '?' :: rest))
    (unqueried : '?' ∉ path.toList) : pathUnder base url = some path := by
  have front : (base.toList ++ ['/']).isPrefixOf url.toList = true :=
    List.isPrefixOf_iff_prefix.mpr ⟨_, parts.symm⟩
  rw [pathUnder, if_pos front, parts, List.drop_left,
    List.takeWhile_append_of_pos fun c mem => by simpa using ne_of_mem_of_not_mem mem unqueried]
  simp

theorem splitOn_intercalate_strings {segments : List String} (nonempty : segments ≠ [])
    (unslashed : ∀ s ∈ segments, '/' ∉ s.toList) :
    ("/".intercalate segments).toList.splitOn '/' = segments.map String.toList := by
  rw [String.toList_intercalate, show "/".toList = ['/'] from rfl]
  exact List.splitOn_intercalate '/' (by simpa using unslashed) (by simpa using nonempty)

theorem mapM_percentDecodeText (segments : List String) :
    (segments.map percentEncode).mapM percentDecodeText = some segments := by
  rw [List.mapM_map]
  have decoded : percentDecodeText ∘ percentEncode = fun s => pure s :=
    funext percentDecodeText_percentEncode
  rw [decoded, List.mapM_pure, List.map_id']
  rfl

theorem locationOfPath_encoded (bucket : String) (segments : List String) :
    locationOfPath ("/".intercalate (percentEncode bucket :: segments.map percentEncode)) =
      some (bucket, "/".intercalate segments) := by
  have unslashed : ∀ s ∈ percentEncode bucket :: segments.map percentEncode, '/' ∉ s.toList := by
    intro s encoded slash
    simp only [List.mem_cons, List.mem_map] at encoded
    rcases encoded with rfl | ⟨segment, -, rfl⟩
    · exact (mem_percentEncode slash).1 rfl
    · exact (mem_percentEncode slash).1 rfl
  have strings : ((percentEncode bucket :: segments.map percentEncode).map String.toList).map
      String.ofList = percentEncode bucket :: segments.map percentEncode := by
    simp [List.map_map, Function.comp_def]
  rw [locationOfPath, splitOn_intercalate_strings (List.cons_ne_nil _ _) unslashed, strings]
  simp only [percentDecodeText_percentEncode, mapM_percentDecodeText]
  rfl

/-! The expiry time and the URL. -/

def expiryOf (lifetime : Nat) (now : Int) : Int := min (now + min (lifetime : Int) int64Max) int64Max

section Signed

variable {now : Int} (inRange : int64Min ≤ now ∧ now ≤ int64Max) (lifetime : Nat)
include inRange

theorem saturatingAdd_lifetime : saturatingAdd now (min (lifetime : Int) int64Max) = expiryOf lifetime now := by
  unfold saturatingAdd expiryOf int64Min int64Max at *
  omega

theorem le_expiryOf : now ≤ expiryOf lifetime now := by
  unfold expiryOf int64Max at *
  omega

theorem presign_of_ne_empty (s : UrlSigner) {bucket key : String} (named : bucket ≠ "")
    (keyed : key ≠ "") :
    s.presign bucket key lifetime now =
      s.baseUrl ++ "/" ++ percentEncode bucket ++ "/" ++
        "/".intercalate ((keySegments key).map percentEncode) ++ "?expires=" ++
        toString (expiryOf lifetime now) ++ "&signature=" ++
        s.signature bucket key (expiryOf lifetime now) := by
  have present : (bucket.isEmpty || key.isEmpty) = false := by
    simp [named, keyed]
  simp only [UrlSigner.presign, present, Bool.false_eq_true, if_false,
    saturatingAdd_lifetime inRange, keySegments]

end Signed

theorem intercalate_keySegments (key : String) : "/".intercalate (keySegments key) = key := by
  apply String.ext
  rw [String.toList_intercalate, keySegments, List.map_map, Function.comp_def]
  simp only [String.toList_ofList, List.map_id']
  exact List.intercalate_splitOn '/'

theorem keySegments_ne_nil (key : String) : keySegments key ≠ [] := by
  simp [keySegments, List.splitOn_ne_nil]

theorem mem_intercalate {sep : List Char} {parts : List (List Char)} {c : Char}
    (mem : c ∈ sep.intercalate parts) : c ∈ sep ∨ ∃ part ∈ parts, c ∈ part := by
  induction parts with
  | nil => simp at mem
  | cons part parts ih =>
    cases parts with
    | nil => exact .inr ⟨part, by simp, by simpa using mem⟩
    | cons next parts =>
      rw [List.intercalate_cons_cons] at mem
      rcases List.mem_append.mp mem with front | back
      · rcases List.mem_append.mp front with inPart | inSep
        · exact .inr ⟨part, by simp, inPart⟩
        · exact .inl inSep
      · rcases ih back with inSep | ⟨other, mem, inOther⟩
        · exact .inl inSep
        · exact .inr ⟨other, List.mem_cons_of_mem part mem, inOther⟩

theorem readLocation_presign (s : UrlSigner) {bucket key : String} {now : Int}
    (inRange : int64Min ≤ now ∧ now ≤ int64Max) (lifetime : Nat) (named : bucket ≠ "")
    (keyed : key ≠ "") :
    readLocation s.baseUrl (s.presign bucket key lifetime now) = some (bucket, key) := by
  set path := "/".intercalate (percentEncode bucket :: (keySegments key).map percentEncode)
  have joined : path = percentEncode bucket ++ "/" ++
      "/".intercalate ((keySegments key).map percentEncode) := by
    apply String.ext
    simp only [path, String.toList_intercalate, String.toList_append, List.map_cons]
    rw [List.intercalate_cons_of_ne_nil (by simpa using keySegments_ne_nil key)]
  have unqueried : '?' ∉ path.toList := by
    intro query
    rw [String.toList_intercalate] at query
    rcases mem_intercalate query with slash | ⟨piece, encoded, inPiece⟩
    · exact absurd slash (by decide)
    · simp only [List.map_cons, List.map_map, List.mem_cons, List.mem_map,
        Function.comp_apply] at encoded
      rcases encoded with rfl | ⟨segment, -, rfl⟩
      · exact (mem_percentEncode inPiece).2 rfl
      · exact (mem_percentEncode inPiece).2 rfl
  have parts : (s.presign bucket key lifetime now).toList = s.baseUrl.toList ++ ['/'] ++
      (path.toList ++ '?' :: ("expires=" ++ toString (expiryOf lifetime now) ++ "&signature=" ++
        s.signature bucket key (expiryOf lifetime now)).toList) := by
    rw [presign_of_ne_empty inRange lifetime s named keyed, joined]
    simp only [String.toList_append, List.append_assoc, show "/".toList = ['/'] from rfl,
      show "?expires=".toList = '?' :: "expires=".toList from rfl, List.cons_append]
  rw [readLocation, pathUnder_eq parts unqueried, Option.bind_some, locationOfPath_encoded,
    intercalate_keySegments]

theorem trimTrailingSlashes_spec (base : String) :
    (∃ n, base.toList = (UrlSigner.trimTrailingSlashes base).toList ++ List.replicate n '/') ∧
      (UrlSigner.trimTrailingSlashes base).toList.getLast? ≠ some '/' := by
  set slashes := base.toList.reverse.takeWhile (· == '/')
  set kept := base.toList.reverse.dropWhile (· == '/')
  have trimmed : (UrlSigner.trimTrailingSlashes base).toList = kept.reverse := by
    simp [UrlSigner.trimTrailingSlashes, kept]
  rw [trimmed]
  constructor
  · have onlySlashes : slashes = List.replicate slashes.length '/' :=
      List.eq_replicate_iff.mpr ⟨rfl, fun c mem => by simpa using List.mem_takeWhile_imp mem⟩
    refine ⟨slashes.length, ?_⟩
    calc base.toList = (slashes ++ kept).reverse := by
          rw [List.takeWhile_append_dropWhile, List.reverse_reverse]
      _ = kept.reverse ++ slashes.reverse := List.reverse_append
      _ = kept.reverse ++ List.replicate slashes.length '/' := by
          conv => lhs; rw [onlySlashes]
          rw [List.reverse_replicate]
  · rw [List.getLast?_reverse]
    intro last
    obtain ⟨rest, split⟩ := List.head?_eq_some_iff.mp last
    have nonempty : 0 < kept.length := by simp [split]
    have stop : ¬ (kept.get ⟨0, nonempty⟩ == '/') = true :=
      List.dropWhile_get_zero_not _ _ nonempty
    simp [split] at stop

theorem presign_eq_empty_iff (s : UrlSigner) {now : Int} (inRange : int64Min ≤ now ∧ now ≤ int64Max)
    (bucket key : String) (lifetime : Nat) :
    s.presign bucket key lifetime now = "" ↔ bucket = "" ∨ key = "" := by
  by_cases named : bucket = ""
  · simp [UrlSigner.presign, named]
  by_cases keyed : key = ""
  · simp [UrlSigner.presign, keyed]
  rw [presign_of_ne_empty inRange lifetime s named keyed]
  simp [String.append_eq_empty_iff, named, keyed]

theorem verify_own_signature (s : UrlSigner) (bucket key : String) (expires now : Int) :
    s.verify bucket key expires (s.signature bucket key expires) now = true ↔ now ≤ expires := by
  simp [UrlSigner.verify]

/-- What a URL presigned at `now` for `lifetime` seconds by the signer made from `base` and
`secret` promises, with `expiryOf lifetime now` as its expiry time. -/
structure PresignLaws (base secret bucket key : String) (lifetime : Nat) (now : Int) : Prop where
  trimmed : (∃ n, base.toList = (UrlSigner.make base secret).baseUrl.toList ++ List.replicate n '/') ∧
    (UrlSigner.make base secret).baseUrl.toList.getLast? ≠ some '/'
  live : now ≤ expiryOf lifetime now
  empty : (UrlSigner.make base secret).presign bucket key lifetime now = "" ↔ bucket = "" ∨ key = ""
  layout : bucket ≠ "" → key ≠ "" →
    (UrlSigner.make base secret).presign bucket key lifetime now =
      (UrlSigner.make base secret).baseUrl ++ "/" ++ percentEncode bucket ++ "/" ++
        "/".intercalate ((keySegments key).map percentEncode) ++ "?expires=" ++
        toString (expiryOf lifetime now) ++ "&signature=" ++
        (UrlSigner.make base secret).signature bucket key (expiryOf lifetime now)
  readsBack : bucket ≠ "" → key ≠ "" →
    readLocation (UrlSigner.make base secret).baseUrl
      ((UrlSigner.make base secret).presign bucket key lifetime now) = some (bucket, key)
  verifies : ∀ t, (UrlSigner.make base secret).verify bucket key (expiryOf lifetime now)
    ((UrlSigner.make base secret).signature bucket key (expiryOf lifetime now)) t = true ↔
      t ≤ expiryOf lifetime now

/-- A presigned URL, for any base, secret, bucket, key, lifetime and signed 64-bit `now`: the
expiry time saturates and is not before `now`; the URL is empty exactly when the bucket or the
key is, and otherwise lays out the base without trailing slashes, the encoded bucket, the key's
encoded segments, the expiry time and the signature; its path decodes back to the bucket and the
key; and its signature verifies exactly until the expiry time. -/
theorem presigned_url_reads_back (base secret bucket key : String) (lifetime : Nat) (now : Int)
    (inRange : int64Min ≤ now ∧ now ≤ int64Max) :
    PresignLaws base secret bucket key lifetime now where
  trimmed := trimTrailingSlashes_spec base
  live := le_expiryOf inRange lifetime
  empty := presign_eq_empty_iff _ inRange bucket key lifetime
  layout := presign_of_ne_empty inRange lifetime _
  readsBack := readLocation_presign _ inRange lifetime
  verifies := verify_own_signature _ bucket key _

theorem presigned_overview_reads_back :
    (int64Min ≤ 1000 ∧ 1000 ≤ int64Max) ∧
      PresignLaws "https://files.example.org/" "s3cr3t" "docs" "repos/sparc overview.pdf" 3600 1000 :=
  ⟨⟨by decide, by decide⟩,
    presigned_url_reads_back "https://files.example.org/" "s3cr3t" "docs" "repos/sparc overview.pdf"
      3600 1000 ⟨by decide, by decide⟩⟩

end DatasetProposals
