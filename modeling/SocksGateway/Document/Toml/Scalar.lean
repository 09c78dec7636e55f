import SocksGateway.Document.Toml.Text
import SocksGateway.Document.Value

/-!
Numbers, dates and times of TOML. Of numbers with a fraction and of dates only their form matters.
-/

set_option autoImplicit false

namespace SocksGateway.Document.Toml

def isDigit (char : Char) : Bool := '0' ≤ char && char ≤ '9'

/-- The digits at the head; an underscore may stand between two of them. -/
def digitsOf (accepts : Char → Bool) : List Char → Option (List Char × List Char)
  | [] => some ([], [])
  | '_' :: char :: rest =>
    if accepts char then
      (digitsOf accepts rest).map fun (later, after) => (char :: later, after)
    else none
  | char :: rest =>
    if accepts char then
      (digitsOf accepts rest).map fun (later, after) => (char :: later, after)
    else if char = '_' then none
    else some ([], char :: rest)

/-- At least one digit. -/
def someDigits (accepts : Char → Bool) (chars : List Char) : Option (List Char × List Char) :=
  if (chars.head?.map accepts).getD false then digitsOf accepts chars else none

/-- The number of digits in a base. -/
def ofDigits (base : Nat) (digits : List Char) : Nat :=
  digits.foldl (fun total digit => total * base + (Hex.digitValue? digit).getD 0) 0

/-- Whether `digits * 10 ^ power` is too large for a number of double precision. -/
def isTooLarge (digits : List Char) (power : Int) : Bool :=
  let number := ofDigits 10 digits
  let size : Int := (Nat.repr number).length
  if number = 0 then false
  else if 310 ≤ size + power then true
  else if size + power ≤ 308 then false
  else
    let bound := Nat.pow 2 1024 - Nat.pow 2 970
    match power with
    | .ofNat exponent => bound ≤ number * Nat.pow 10 exponent
    | .negSucc exponent => bound * Nat.pow 10 (exponent + 1) ≤ number

/-- The digits of a number before its point: no zero before other digits. -/
def wholeDigits : List Char → Option (List Char × List Char)
  | '0' :: rest => some (['0'], rest)
  | chars => someDigits isDigit chars

/-- The exponent of a number, zero if there is none. -/
def exponent : List Char → Option (Int × List Char)
  | mark :: rest =>
    if mark = 'e' ∨ mark = 'E' then
      let (isNegative, unsigned) := match rest with
        | '-' :: later => (true, later)
        | '+' :: later => (false, later)
        | _ => (false, rest)
      (someDigits isDigit unsigned).map fun (digits, rest) =>
        let size : Int := ofDigits 10 digits
        (if isNegative then -size else size, rest)
    else some (0, mark :: rest)
  | [] => some (0, [])

/-- A decimal number, from behind its sign. -/
def decimal (isNegative : Bool) (chars : List Char) : Option (Value × List Char) := do
  let (whole, rest) ← wholeDigits chars
  let (places, rest, hasPoint) ← match rest with
    | '.' :: rest => (someDigits isDigit rest).map fun (places, rest) => (places, rest, true)
    | _ => some ([], rest, false)
  let hasExponent := rest.head? == some 'e' || rest.head? == some 'E'
  let (power, rest) ← exponent rest
  if hasPoint || hasExponent then
    if !isNegative && isTooLarge (whole ++ places) (power - places.length) then none
    else return (.other, rest)
  else
    let number := ofDigits 10 whole
    if isNegative then
      if number ≤ 0x8000000000000000 then return (.integer (-number), rest) else none
    else if number < 0x8000000000000000 then return (.integer number, rest) else none

/-- An integer of another base, from behind its mark. -/
def based (base : Nat) (chars : List Char) : Option (Value × List Char) := do
  let accepts (char : Char) : Bool := (Hex.digitValue? char).any (· < base)
  let (digits, rest) ← someDigits accepts chars
  let number := ofDigits base digits
  if number < 0x8000000000000000 then return (.integer number, rest) else none

/-- A number, from behind its sign. -/
def unsignedNumber (isNegative : Bool) (chars : List Char) : Option (Value × List Char) :=
  match chars with
  | 'i' :: 'n' :: 'f' :: rest => some (.other, rest)
  | 'n' :: 'a' :: 'n' :: rest => some (.other, rest)
  | _ => decimal isNegative chars

def number : List Char → Option (Value × List Char)
  | '+' :: rest => unsignedNumber false rest
  | '-' :: rest => unsignedNumber true rest
  | '0' :: 'x' :: rest => based 16 rest
  | '0' :: 'o' :: rest => based 8 rest
  | '0' :: 'b' :: rest => based 2 rest
  | chars => unsignedNumber false chars

/-! ## Dates and times -/

/-- A number of exactly `count` digits. -/
def fixedNumber (count : Nat) (chars : List Char) : Option (Nat × List Char) :=
  let digits := chars.take count
  if digits.length = count ∧ digits.all isDigit then
    some (ofDigits 10 digits, chars.drop count)
  else none

/-- A number of two digits between two bounds. -/
def part (least greatest : Nat) (chars : List Char) : Option (Nat × List Char) := do
  let (value, rest) ← fixedNumber 2 chars
  if least ≤ value ∧ value ≤ greatest then some (value, rest) else none

def given (char : Char) : List Char → Option (List Char)
  | [] => none
  | first :: rest => if first = char then some rest else none

def isLeapYear (year : Nat) : Bool := year % 4 == 0 && (year % 100 != 0 || year % 400 == 0)

def daysIn (year month : Nat) : Nat :=
  if month = 2 then if isLeapYear year then 29 else 28
  else if month = 4 ∨ month = 6 ∨ month = 9 ∨ month = 11 then 30
  else 31

/-- What follows a date. -/
def date (chars : List Char) : Option (List Char) := do
  let (year, rest) ← fixedNumber 4 chars
  let rest ← given '-' rest
  let (month, rest) ← part 1 12 rest
  let rest ← given '-' rest
  let (day, rest) ← part 1 31 rest
  if day ≤ daysIn year month then some rest else none

/-- What follows a time of the day. -/
def time (chars : List Char) : Option (List Char) := do
  let (_, rest) ← part 0 23 chars
  let rest ← given ':' rest
  let (_, rest) ← part 0 59 rest
  let rest ← given ':' rest
  let (_, rest) ← part 0 60 rest
  match rest with
  | '.' :: rest =>
    if (rest.head?.map isDigit).getD false then some (rest.dropWhile isDigit) else none
  | _ => some rest

/-- What follows the distance of a time from universal time, if that is given. -/
def offset : List Char → Option (List Char)
  | 'Z' :: rest => some rest
  | 'z' :: rest => some rest
  | sign :: rest =>
    if sign = '+' ∨ sign = '-' then do
      let (_, rest) ← part 0 23 rest
      let rest ← given ':' rest
      let (_, rest) ← part 0 59 rest
      return rest
    else some (sign :: rest)
  | [] => some []

/-- Whether a time of the day seems to begin here. -/
def startsTime (chars : List Char) : Bool :=
  (fixedNumber 2 chars).any fun (_, rest) => rest.head? == some ':'

def startsDate (chars : List Char) : Bool :=
  (fixedNumber 4 chars).any fun (_, rest) => rest.head? == some '-'

/-- What follows a date, which a time may follow. -/
def dateTime (chars : List Char) : Option (List Char) := do
  let rest ← date chars
  match rest with
  | mark :: later =>
    if (mark = 'T' ∨ mark = 't' ∨ mark = ' ') ∧ startsTime later then do
      offset (← time later)
    else return rest
  | [] => return rest

/-- A date or a time counts as a record of parts that have no names. -/
def calendarValue : Value := .record [("", .other)]

/-- A number, a date or a time. -/
def numberOrDate (chars : List Char) : Option (Value × List Char) :=
  if startsDate chars then (dateTime chars).map (calendarValue, ·)
  else if startsTime chars then (time chars).map (calendarValue, ·)
  else number chars

end SocksGateway.Document.Toml
