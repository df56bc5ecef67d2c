import PathTemplate.Decimal.Binary64
import PathTemplate.Toml.Text

/-!
# Numbers

An underscore may stand between two digits of a number.  A decimal number has no leading zero.  An
integer has to fit 64 bits, and a float may not exceed the largest finite number.
-/

namespace PathTemplate.Toml

def digitRun (isDigit : Char → Bool) : Reader (List Char) := do
  let first ← Reader.satisfy isDigit
  let rest ← Reader.many do
    Reader.char '_' <|> pure ()
    Reader.satisfy isDigit
  return first :: rest

/-- Whether a minus sign stands here; a plus sign is passed over. -/
def sign : Reader Bool := do
  match ← Reader.peek? with
  | some '-' => Reader.char '-'; return true
  | some '+' => Reader.char '+'; return false
  | _ => return false

/-- The digits of a decimal number: a zero alone, or digits of which the first is none. -/
def decimalDigits : Reader (List Char) := do
  match ← Reader.peek? with
  | some '0' => Reader.char '0'; return ['0']
  | _ => digitRun Char.isDigit

def fitsInt64 (n : Int) : Bool :=
  -0x8000000000000000 ≤ n && n ≤ 0x7fffffffffffffff

def signed (negative : Bool) (magnitude : Nat) : Int :=
  if negative then -magnitude else magnitude

def basedInteger (mark : String) (base : Nat) (isDigit : Char → Bool) : Reader Int := do
  Reader.literal mark
  return numeral base (← digitRun isDigit)

def decimalInteger : Reader Int := do
  let negative ← sign
  return signed negative (numeral 10 (← decimalDigits))

def integer : Reader Int := do
  let n ← basedInteger "0x" 16 isHexDigit
    <|> basedInteger "0o" 8 (fun c => '0' ≤ c && c ≤ '7')
    <|> basedInteger "0b" 2 (fun c => c == '0' || c == '1')
    <|> decimalInteger
  guard (fitsInt64 n)
  return n

def fraction : Reader (List Char) := do
  Reader.char '.'
  digitRun Char.isDigit

def exponent : Reader Int := do
  let _ ← Reader.satisfy fun c => c == 'e' || c == 'E'
  let negative ← sign
  return signed negative (numeral 10 (← digitRun Char.isDigit))

def decimalFloat : Reader Binary64 := do
  let negative ← sign
  let whole ← decimalDigits
  let part? ← some <$> fraction <|> pure none
  let exponent? ← some <$> exponent <|> pure none
  guard (part?.isSome || exponent?.isSome)
  let part := part?.getD []
  let x := Binary64.ofDecimal negative (numeral 10 (whole ++ part))
    (exponent?.getD 0 - part.length)
  guard (x ≠ .infinite false)
  return x

def specialFloat : Reader Binary64 := do
  let negative ← sign
  (do Reader.literal "inf"; return .infinite negative) <|>
    (do Reader.literal "nan"; return .nan)

def float : Reader Binary64 :=
  decimalFloat <|> specialFloat

end PathTemplate.Toml
