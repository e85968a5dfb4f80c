import CodeMentor.Json.Parser
import CodeMentor.Text.Utf8

/-!
# Percent escapes

A byte inside a locator can be written as a percent sign and two hexadecimal digits. Decoding
resolves every escape that is complete; encoding escapes the bytes of the characters it is told to.
-/

namespace CodeMentor.Text

/-- The bytes of a text with its percent escapes resolved. An escape that is not complete, or whose
byte is to be kept escaped, stands for itself. -/
def percentBytes (kept : UInt8 → Bool) : List Char → List UInt8
  | [] => []
  | '%' :: a :: b :: rest =>
    match Json.hexValue? a, Json.hexValue? b with
    | some high, some low =>
      let byte := UInt8.ofNat (high * 16 + low)
      if kept byte then String.utf8EncodeChar '%' ++ percentBytes kept (a :: b :: rest)
      else byte :: percentBytes kept rest
    | _, _ => String.utf8EncodeChar '%' ++ percentBytes kept (a :: b :: rest)
  | c :: rest => String.utf8EncodeChar c ++ percentBytes kept rest

def percentDecodeExcept (kept : UInt8 → Bool) (text : List Char) : String :=
  Utf8.lossy (percentBytes kept text)

def percentDecode (text : List Char) : String :=
  percentDecodeExcept (fun _ => false) text

/-- One byte as an escape, with capital letters. -/
def percentEscape (b : UInt8) : List Char :=
  let digit (n : Nat) := (Nat.digitChar n).toUpper
  ['%', digit (b.toNat / 16), digit (b.toNat % 16)]

def percentEncode (escapes : Char → Bool) (text : List Char) : List Char :=
  text.flatMap fun c =>
    if escapes c then (String.utf8EncodeChar c).flatMap percentEscape else [c]

end CodeMentor.Text
