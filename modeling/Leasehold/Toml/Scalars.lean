import Leasehold.Toml.Strings
/-!
Numbers, dates and times, and booleans of TOML. Settings take none of them, so that a reader only
finds out whether one stands there and where it ends.
-/
namespace Leasehold.Toml

/-- The rest after a character that must come next. -/
def expect? (c : Char) : List Char → Option (List Char)
  | [] => none
  | d :: rest => if c = d then some rest else none

/-- The rest after a word that must come next. -/
def expectWord? : List Char → List Char → Option (List Char)
  | [], rest => some rest
  | c :: word, rest => expect? c rest >>= expectWord? word

/-- A number of exactly this many digits. -/
def fixedDigits? : Nat → Nat → List Char → Option (Nat × List Char)
  | 0, value, rest => some (value, rest)
  | count + 1, value, c :: rest =>
    if c.isDigit then fixedDigits? count (value * 10 + (c.toNat - '0'.toNat)) rest else none
  | _ + 1, _, [] => none

/-- A number of exactly this many digits between two bounds. -/
def bounded? (count low high : Nat) (input : List Char) : Option (Nat × List Char) := do
  let (value, rest) ← fixedDigits? count 0 input
  if low ≤ value ∧ value ≤ high then some (value, rest) else none

/-! ## Dates and times -/

/-- The days of a month. -/
def daysIn (year month : Nat) : Nat :=
  if month = 2 then
    if year % 4 = 0 ∧ (year % 100 ≠ 0 ∨ year % 400 = 0) then 29 else 28
  else if month = 4 ∨ month = 6 ∨ month = 9 ∨ month = 11 then 30
  else 31

/-- A date. -/
def date? (input : List Char) : Option (List Char) := do
  let (year, rest) ← fixedDigits? 4 0 input
  let rest ← expect? '-' rest
  let (month, rest) ← bounded? 2 1 12 rest
  let rest ← expect? '-' rest
  let (_, rest) ← bounded? 2 1 (daysIn year month) rest
  some rest

/-- A time of day, to the second or finer. -/
def time? (input : List Char) : Option (List Char) := do
  let (_, rest) ← bounded? 2 0 23 input
  let rest ← expect? ':' rest
  let (_, rest) ← bounded? 2 0 59 rest
  let rest ← expect? ':' rest
  let (_, rest) ← bounded? 2 0 60 rest
  match rest with
  | '.' :: c :: fraction => if c.isDigit then some (fraction.dropWhile Char.isDigit) else some rest
  | _ => some rest

/-- The rest after an offset from universal time, if there is one. -/
def dropOffset (input : List Char) : List Char :=
  match input with
  | c :: rest =>
    if c = 'Z' ∨ c = 'z' then rest
    else if c = '+' ∨ c = '-' then
      let offset := do
        let (_, rest) ← bounded? 2 0 23 rest
        let rest ← expect? ':' rest
        let (_, rest) ← bounded? 2 0 59 rest
        some rest
      offset.getD input
    else input
  | [] => []

/-- A date, a time, or both with or without an offset. -/
def moment? (input : List Char) : Option (List Char) :=
  match date? input with
  | none => time? input
  | some rest =>
    match rest with
    | c :: following =>
      if c = 'T' ∨ c = 't' ∨ c = ' ' then
        match time? following with
        | some rest => some (dropOffset rest)
        | none => some rest
      else some rest
    | [] => some rest

/-! ## Numbers -/

/-- The rest of a run of digits in which single underscores may divide two digits, and the digits.
The flag says whether the character before was a digit. -/
def dividedRun (isDigit : Char → Bool) : Bool → List Char → List Char × List Char
  | _, [] => ([], [])
  | afterDigit, c :: rest =>
    if isDigit c then
      let (run, rest) := dividedRun isDigit true rest
      (c :: run, rest)
    else if c = '_' ∧ afterDigit ∧ (rest.head?.any isDigit) then dividedRun isDigit false rest
    else ([], c :: rest)

/-- A run of at least one digit in which single underscores may divide two digits. -/
def divided? (isDigit : Char → Bool) (input : List Char) : Option (List Char × List Char) :=
  match dividedRun isDigit false input with
  | ([], _) => none
  | found => some found

/-- The number that digits of a base denote. -/
def valueOf (base : Nat) (run : List Char) : Nat :=
  run.foldl (fun value c => value * base + (hexDigit? c).getD 0) 0

/-- The rest after a sign, and whether it is a minus. -/
def sign : List Char → Bool × List Char
  | c :: rest => if c = '-' then (true, rest) else if c = '+' then (false, rest) else (false, c :: rest)
  | [] => (false, [])

/-- The digits of a whole decimal number, which has no leading zeros. -/
def decimal? (input : List Char) : Option (List Char × List Char) :=
  match input with
  | '0' :: rest => some (['0'], rest)
  | _ => divided? Char.isDigit input

/-- An integer in a base other than ten, after its mark. -/
def based? (base : Nat) (isDigit : Char → Bool) (input : List Char) : Option (List Char) := do
  let (run, rest) ← divided? isDigit input
  if valueOf base run < 9223372036854775808 then some rest else none

/-- An integer. It must fit a signed 64-bit word. -/
def integer? (input : List Char) : Option (List Char) :=
  match input with
  | '0' :: 'x' :: rest => based? 16 (fun c => (hexDigit? c).isSome) rest
  | '0' :: 'o' :: rest => based? 8 (fun c => '0' ≤ c && c ≤ '7') rest
  | '0' :: 'b' :: rest => based? 2 (fun c => c == '0' || c == '1') rest
  | _ => do
    let (negative, rest) := sign input
    let (run, rest) ← decimal? rest
    let value := valueOf 10 run
    if value < 9223372036854775808 ∨ (negative ∧ value = 9223372036854775808) then some rest else none

/-- Whether `digits * 10 ^ place` rounds to a finite double. Only numbers near the limit have to be
looked at closely. -/
def isFinite (digits : Nat) (place : Int) : Bool :=
  let magnitude := (Nat.toDigits 10 digits).length + place
  digits = 0 ∨ magnitude < 300 ∨
    (magnitude < 310 ∧ digits * Nat.pow 10 place.toNat
      < (Nat.pow 2 1024 - Nat.pow 2 970) * Nat.pow 10 (-place).toNat)

/-- The exponent of a floating point number. -/
def exponent? (input : List Char) : Option (Int × List Char) :=
  match input with
  | c :: rest =>
    if c = 'e' ∨ c = 'E' then do
      let (negative, rest) := sign rest
      let (run, rest) ← divided? Char.isDigit rest
      let value := valueOf 10 run
      some (if negative then -(value : Int) else value, rest)
    else none
  | [] => none

/-- A floating point number: a decimal with a fraction, an exponent or both, or a special value.
Decimals that are too large are none, unless they are negative. -/
def float? (input : List Char) : Option (List Char) :=
  let (negative, unsigned) := sign input
  match expectWord? ['i', 'n', 'f'] unsigned, expectWord? ['n', 'a', 'n'] unsigned with
  | some rest, _ => some rest
  | _, some rest => some rest
  | none, none => do
    let (whole, rest) ← decimal? unsigned
    let (fraction, afterFraction) ← match rest with
      | '.' :: rest => divided? Char.isDigit rest
      | _ => some ([], rest)
    let (exponent, rest) ← match exponent? afterFraction with
      | some found => some found
      | none => if fraction.isEmpty then none else some (0, afterFraction)
    if negative ∨ isFinite (valueOf 10 (whole ++ fraction)) (exponent - fraction.length) then some rest
    else none

/-- A boolean. -/
def boolean? (input : List Char) : Option (List Char) :=
  match expectWord? ['t', 'r', 'u', 'e'] input with
  | some rest => some rest
  | none => expectWord? ['f', 'a', 'l', 's', 'e'] input

/-- A scalar other than a string: whether it is a moment, and what follows it. -/
def scalarValue? (input : List Char) : Option (Bool × List Char) :=
  match moment? input with
  | some rest => some (true, rest)
  | none =>
    match float? input with
    | some rest => some (false, rest)
    | none =>
      match integer? input with
      | some rest => some (false, rest)
      | none => (boolean? input).map (false, ·)

end Leasehold.Toml
