import ScriptLex.Binary64
import ScriptLex.Toml.Reader
/-!
# TOML numbers and dates

Integers, floats and date-times, with the failures the format's messages give for them.

* A decimal integer has an optional sign and no leading zero; single underscores may stand
  between digits. After an underscore a digit must follow. The value must fit in 64 bits with a
  sign: beyond that the cause is `number too large to fit in target type` (or `too small`), at
  the number's start.
* `0x`, `0o` and `0b` commit to a hexadecimal, octal or binary integer.
* A float is a decimal integer followed by an exponent, or by a fraction and an optional
  exponent; or `inf` or `nan` with an optional sign. After a point or an `e` a digit must
  follow. A float that rounds to positive infinity is refused.
* A date is `YYYY-MM-DD`; after its first dash the month, the second dash and the day are
  committed, and a month or day out of range is refused at its start. A date may go on with
  `T`, `t` or a space and a time `HH:MM:SS` with an optional fraction, and then a time offset
  `Z`, `z` or `±HH:MM`. A time alone is a local time. After the first colon of a time the rest is
  committed; after the sign of an offset, the offset is.
-/

namespace ScriptLex.Toml

/-- A decimal digit. -/
def digit : Reader Char := satisfy Char.isDigit

/-- The rest of a run of digits: more digits, each underscore followed by a digit. -/
def digitTail (isDigit : Char → Bool) (fuel : Nat) : Reader Unit := do
  let _ ← many (orElse (satisfy isDigit)
    (do char '_'; expecting "digit" (commit (satisfy isDigit)))) fuel

/-- A sign. -/
def sign : Reader Char := satisfy fun c => c == '+' || c == '-'

/-- A decimal integer's text: a sign, then one digit alone or a non-zero digit and more. -/
def decimalText : Reader (List Char) :=
  labelled "integer" do
    let fuel ← fuelHere
    let ((), cs) ← consumed do
      let _ ← attempt? sign
      orElse (do let _ ← satisfy (fun c => '1' ≤ c && c ≤ '9'); digitTail Char.isDigit fuel)
        (do let _ ← digit)
    pure cs

/-- The smallest and largest integers a document may hold. -/
def intMin : Int := -9223372036854775808
def intMax : Int := 9223372036854775807

/-- The value of digits in a base, underscores left out. -/
def digitsValue (base : Nat) (cs : List Char) : Nat :=
  (cs.filter (· != '_')).foldl (fun n d =>
    base * n + (if d.isDigit then d.toNat - '0'.toNat
      else if d ≤ 'F' then d.toNat - 'A'.toNat + 10 else d.toNat - 'a'.toNat + 10)) 0

/-- An integer that fits in 64 bits, else the cause of its refusal. -/
def fitting (v : Int) : Except (Option String) Int :=
  if v > intMax then .error (some "number too large to fit in target type")
  else if v < intMin then .error (some "number too small to fit in target type")
  else .ok v

/-- The value of a decimal integer's text. -/
def decimalValue (cs : List Char) : Int :=
  match cs with
  | '-' :: ds => -(digitsValue 10 ds : Int)
  | '+' :: ds => digitsValue 10 ds
  | ds => digitsValue 10 ds

/-- An integer in a base with a prefix: the prefix commits. -/
def prefixedText (pfx : Char) (isDigit : Char → Bool) (name : String) : Reader (List Char) :=
  labelled name do
    word ['0', pfx]
    let fuel ← fuelHere
    let ((), cs) ← commit (consumed do let _ ← satisfy isDigit; digitTail isDigit fuel)
    pure cs

/-- Reads a number with `read`, then refuses it from its start, committed, when `check` does,
with the cause that `check` gives. -/
def checked {α β : Type} (read : Reader α) (check : α → Except (Option String) β) : Reader β := do
  let start ← get
  let a ← read
  match check a with
  | .ok b => pure b
  | .error cause => throw { offset := start.pos, cause, committed := true }

/-- An integer of any base. -/
def integer : Reader Int := do
  let hex := fun c => c.isDigit || ('a' ≤ c && c ≤ 'f') || ('A' ≤ c && c ≤ 'F')
  match ← peekN 2 with
  | ['0', 'x'] => commit (checked (prefixedText 'x' hex "hexadecimal integer")
      (fun cs => fitting (digitsValue 16 cs)))
  | ['0', 'o'] => commit (checked (prefixedText 'o' (fun c => '0' ≤ c && c ≤ '7') "octal integer")
      (fun cs => fitting (digitsValue 8 cs)))
  | ['0', 'b'] => commit (checked (prefixedText 'b' (fun c => c == '0' || c == '1') "binary integer")
      (fun cs => fitting (digitsValue 2 cs)))
  | _ => checked decimalText (fun cs => fitting (decimalValue cs))

/-- Digits that may start with zero, underscores between them. -/
def zeroPrefixable : Reader Unit := do let _ ← digit; digitTail Char.isDigit (← fuelHere)

/-- An exponent: `e` or `E`, a sign, digits. -/
def exponentPart : Reader Unit := do
  let _ ← satisfy fun c => c == 'e' || c == 'E'
  let _ ← attempt? sign
  commit zeroPrefixable

/-- A fraction: a point and digits. -/
def fractionPart : Reader Unit := do
  char '.'
  expecting "digit" (commit zeroPrefixable)

/-- The value of a float's text, rounded to the nearest double. -/
def floatValue (cs : List Char) : Binary64 :=
  let cs := cs.filter (· != '_')
  let (negative, cs) := match cs with
    | '-' :: r => (true, r)
    | '+' :: r => (false, r)
    | r => (false, r)
  let whole := cs.takeWhile Char.isDigit
  let cs := cs.drop whole.length
  let frac := match cs with
    | '.' :: r => r.takeWhile Char.isDigit
    | _ => []
  let cs := match cs with
    | '.' :: r => r.drop frac.length
    | r => r
  let exp : Int := match cs with
    | _ :: '-' :: ds => -(digitsValue 10 ds : Int)
    | _ :: '+' :: ds => digitsValue 10 ds
    | _ :: ds => digitsValue 10 ds
    | [] => 0
  Binary64.ofDecimal negative (digitsValue 10 (whole ++ frac)) (exp - frac.length)

/-- `inf` or `nan` with an optional sign. -/
def specialFloat : Reader Binary64 := do
  let s ← attempt? sign
  let negative := s == some '-'
  orElse (do word "inf".toList; pure (.infinite negative)) (do word "nan".toList; pure .nan)

/-- A float. -/
def float : Reader Binary64 :=
  labelled "floating-point number" <| orElse
    (checked
      (do
        let ((), cs) ← consumed do
          let _ ← decimalText
          orElse exponentPart (do fractionPart; let _ ← attempt? exponentPart)
        pure cs)
      (fun cs =>
        match floatValue cs with
        | .infinite false => .error none
        | v => .ok v))
    specialFloat

/-! ## Dates and times -/

/-- Exactly `n` digits, as a number; fewer fail where they start. -/
def fixedDigits (n : Nat) : Reader Nat := do
  let start ← get
  let ds ← takeUpTo n Char.isDigit
  if ds.length != n then throw { offset := start.pos }
  pure (digitsValue 10 ds)

/-- A number of `n` digits within bounds; one out of them is refused at its start. -/
def boundedDigits (n lo hi : Nat) : Reader Nat := do
  let start ← get
  let v ← fixedDigits n
  if lo ≤ v && v ≤ hi then pure v else refuseAt start "value is out of range"

/-- The number of days in a month. -/
def daysIn (year month : Nat) : Nat :=
  if month == 2 then
    if year % 4 == 0 && (year % 100 != 0 || year % 400 == 0) then 29 else 28
  else if month == 4 || month == 6 || month == 9 || month == 11 then 30 else 31

/-- A date `YYYY-MM-DD`. -/
def fullDate : Reader Unit := do
  let year ← fixedDigits 4
  char '-'
  let month ← commit (boundedDigits 2 1 12)
  commit (char '-')
  let dayStart ← get
  let day ← commit (boundedDigits 2 1 31)
  if daysIn year month < day then
    throw { offset := dayStart.pos, cause := some "value is out of range", committed := true }

/-- A time `HH:MM:SS` with an optional fraction. -/
def partialTime : Reader Unit := do
  let _ ← boundedDigits 2 0 23
  char ':'
  commit do
    let _ ← boundedDigits 2 0 59
    char ':'
    let _ ← boundedDigits 2 0 60
    let _ ← attempt? (do char '.'; let _ ← takeWhile1 Char.isDigit)

/-- A time offset: `Z`, `z`, or a sign and `HH:MM`. -/
def timeOffset : Reader Unit :=
  labelled "time offset" <| orElse (do let _ ← satisfy (fun c => c == 'Z' || c == 'z'))
    (do
      let _ ← sign
      commit do
        let _ ← boundedDigits 2 0 23
        char ':'
        let _ ← boundedDigits 2 0 59)

/-- A date with an optional time and offset, or a time alone. -/
def dateTime : Reader Unit :=
  orElse
    (labelled "date-time" do
      fullDate
      let _ ← attempt? do
        let _ ← satisfy fun c => c == 'T' || c == 't' || c == ' '
        partialTime
        let _ ← attempt? timeOffset)
    (labelled "time" partialTime)

end ScriptLex.Toml
