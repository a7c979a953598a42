import InspectionForms.Text.Digits

namespace InspectionForms

/-- The bytes of a text in which `%` and two hexadecimal digits stand for a byte. A zero byte ends it. -/
def percentBytes : List Char → List UInt8
  | [] => []
  | '%' :: rest@(high :: low :: others) =>
    match hexValue? high, hexValue? low with
    | some h, some l => if 16 * h + l = 0 then [] else UInt8.ofNat (16 * h + l) :: percentBytes others
    | _, _ => String.utf8EncodeChar '%' ++ percentBytes rest
  | c :: rest => String.utf8EncodeChar c ++ percentBytes rest

end InspectionForms
