import SystemSketch.Double
import SystemSketch.Text.Blank
import SystemSketch.Text.DecimalDigit
import SystemSketch.Text.Quoted

/-!
# Numerals

A numeral may be written with the digits of any script, with blanks around it and a sign in
front of it. An integer is written in one of the bases up to 16, and in base 2, 8 or 16 also
behind the mark of its base. The length of a numeral in base 10 is limited.

## Main definitions

* `NumeralError` — why a text is no numeral.
* `readInteger` — the integer of a text in a base.
* `readNumber` — the number of a text, with a point or an exponent or in words.
-/

namespace SystemSketch.Text

/-- Why a text is no numeral. -/
inductive NumeralError where
  | notInteger (base : Nat) (text : String)
  /-- There are more digits than a numeral may have. -/
  | tooLong (digits : Nat)
  | notNumber (text : String)
  deriving DecidableEq

/-- How many digits a numeral in base 10 may have. -/
def numeralLimit : Nat := 4300

/-- How much of a text a message shows. -/
def shownLength : Nat := 200

/-- The text of an error. -/
def NumeralError.message : NumeralError → String
  | notInteger base text =>
    "invalid literal for int() with base " ++ toString base ++ ": " ++
      String.ofList ((quote text).toList.take shownLength)
  | tooLong digits =>
    "Exceeds the limit (" ++ toString numeralLimit ++
      " digits) for integer string conversion: value has " ++ toString digits ++
      " digits; use sys.set_int_max_str_digits() to increase the limit"
  | notNumber text => "could not convert string to float: " ++ quote text

/-- The value of a decimal digit of any script. -/
def digitValue? (c : Char) : Option Nat :=
  (zeros.find? fun first => first ≤ c.toNat && c.toNat < first + 10).map (c.toNat - ·)

/-- A text with blanks and digits of other scripts in ASCII. It ends at the first character that
is neither of them, which becomes a question mark. -/
def plainDigits : List Char → List Char
  | [] => []
  | c :: rest =>
    if c.toNat < 0x7F then c :: plainDigits rest
    else if isBlank c then ' ' :: plainDigits rest
    else
      match digitValue? c with
      | some value => Nat.digitChar value :: plainDigits rest
      | none => ['?']

/-- A text as numerals are read from it. -/
def numeralForm (text : List Char) : List Char :=
  if text.all fun c => c.toNat < 0x80 then text else plainDigits text

/-- A blank that may stand around a numeral. -/
def isNumeralMargin (c : Char) : Bool :=
  c == ' ' || (0x09 ≤ c.toNat && c.toNat ≤ 0x0D)

/-- A sign at the front of a text, as whether it is a minus, and what follows. -/
def takeSign : List Char → Bool × List Char
  | '+' :: rest => (false, rest)
  | '-' :: rest => (true, rest)
  | text => (false, text)

/-- A text without the mark of a base at its front. -/
def dropBaseMark (base : Nat) : List Char → List Char
  | '0' :: mark :: rest =>
    let small := mark.toLower
    if (base == 2 && small == 'b') || (base == 8 && small == 'o') || (base == 16 && small == 'x')
    then rest else '0' :: mark :: rest
  | text => text

/-- Whether a character is a digit in a base. -/
def isDigitOf (base : Nat) (c : Char) : Bool :=
  (hexValue? c).any (· < base)

/-- The value of digits in a base. -/
def valueOf (base : Nat) (digits : List Char) : Nat :=
  digits.foldl (fun n d => n * base + (hexValue? d).getD 0) 0

/-- The integer of a text in a base. -/
def readInteger (base : Nat) (text : List Char) : Except NumeralError Int :=
  let (negative, rest) := takeSign ((numeralForm text).dropWhile isNumeralMargin)
  let rest := dropBaseMark base rest
  let digits := rest.takeWhile (isDigitOf base)
  if base == 10 && numeralLimit < digits.length then .error (.tooLong digits.length)
  else if digits.isEmpty || !(rest.drop digits.length).all isNumeralMargin then
    .error (.notInteger base (String.ofList text))
  else
    let n := valueOf base digits
    .ok (if negative then -(n : Int) else n)

/-- Whether a text is an exponent, or empty. -/
def isExponentPart : List Char → Bool
  | [] => true
  | c :: rest =>
    let (_, digits) := takeSign rest
    (c == 'e' || c == 'E') && !digits.isEmpty && digits.all Char.isDigit

/-- Whether a text is digits with a point or without, and an exponent or none. -/
def isDecimalForm (text : List Char) : Bool :=
  let whole := text.takeWhile Char.isDigit
  match text.drop whole.length with
  | '.' :: rest =>
    let fraction := rest.takeWhile Char.isDigit
    !(whole.isEmpty && fraction.isEmpty) && isExponentPart (rest.drop fraction.length)
  | rest => !whole.isEmpty && isExponentPart rest

/-- The number of a text. -/
def readNumber (text : List Char) : Except NumeralError Double :=
  let (negative, rest) := takeSign (trimBoth isNumeralMargin (numeralForm text))
  let word := String.ofList (rest.map Char.toLower)
  let magnitude? : Option Double :=
    if word == "inf" || word == "infinity" then some (.infinite false)
    else if word == "nan" then some .undefined
    else if isDecimalForm rest then some (.ofWritten rest)
    else none
  match magnitude? with
  | some magnitude => .ok (if negative then magnitude.neg else magnitude)
  | none => .error (.notNumber (String.ofList text))

end SystemSketch.Text
