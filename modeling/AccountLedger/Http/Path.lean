import AccountLedger.Digits

/-!
Paths of requests: their segments, and the bytes that a percent sign stands for.
-/

namespace AccountLedger.Path

/-- The segments of a target that starts with a slash, without its query and fragment. -/
def segments? (target : String) : Option (List String) :=
  match target.toList.takeWhile (fun c => c != '?' && c != '#') with
  | '/' :: rest => some ((rest.splitOn '/').map String.ofList)
  | _ => none

/-- Bytes with each percent sign and two hexadecimal digits replaced by the byte they name. Other
percent signs stand for themselves. -/
def decodeBytes : List UInt8 → List UInt8
  | [] => []
  | 0x25 :: high :: low :: rest =>
    match digitValue? (Char.ofNat high.toNat), digitValue? (Char.ofNat low.toNat) with
    | some high, some low => UInt8.ofNat (high * 16 + low) :: decodeBytes rest
    | _, _ => 0x25 :: decodeBytes (high :: low :: rest)
  | byte :: rest => byte :: decodeBytes rest

/-- The text of a segment, if its bytes are one. -/
def decode? (segment : String) : Option String :=
  String.fromUTF8? ⟨(decodeBytes segment.toUTF8.data.toList).toArray⟩

end AccountLedger.Path
