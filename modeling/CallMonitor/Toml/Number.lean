import CallMonitor.Toml.Scan

/-!
The numbers of TOML documents. Whole numbers have 64 bits and a sign in base ten, and no sign in
the bases sixteen, eight and two. Numbers with a fraction or an exponent are read over; one that
is too large to be held is refused.
-/

namespace CallMonitor.Toml

def takeSign : List Char → Option Bool × List Char
  | '+' :: rest => (some false, rest)
  | '-' :: rest => (some true, rest)
  | text => (none, text)

/-- The digits of a whole number in base ten: a lone zero, or digits that do not start with one. -/
def readPlain : Reader (List Char)
  | '0' :: rest => some (['0'], rest)
  | text =>
      match spanDigits 10 text with
      | ([], _) => none
      | (digits, rest) => some (digits, rest)

def largest : Nat := 9223372036854775807

/-- A whole number with its sign, if it has 64 bits. -/
def inRange (negative : Bool) (size : Nat) : Option Int :=
  if negative then if size ≤ largest + 1 then some (-(size : Int)) else none
  else if size ≤ largest then some (size : Int) else none

def readBased (base : Nat) (text : List Char) : Option (Int × List Char) :=
  match spanDigits base text with
  | ([], _) => none
  | (digits, rest) => (inRange false (valueOf base digits)).map fun n => (n, rest)

def readInteger : Reader Int
  | '0' :: 'x' :: rest => readBased 16 rest
  | '0' :: 'o' :: rest => readBased 8 rest
  | '0' :: 'b' :: rest => readBased 2 rest
  | text =>
      let (sign, rest) := takeSign text
      match readPlain rest with
      | none => none
      | some (digits, rest) =>
          (inRange (sign.getD false) (valueOf 10 digits)).map fun n => (n, rest)

def readFraction : Reader (List Char)
  | '.' :: rest =>
      match spanDigits 10 rest with
      | ([], _) => none
      | (digits, rest) => some (digits, rest)
  | _ => none

def readExponent : Reader Int
  | mark :: rest =>
      if mark = 'e' ∨ mark = 'E' then
        let (sign, rest) := takeSign rest
        match spanDigits 10 rest with
        | ([], _) => none
        | (digits, rest) =>
            let size : Int := valueOf 10 digits
            some (if sign = some true then -size else size, rest)
      else none
  | [] => none

/-- Whether `mantissa` times ten to the `power` is too large for a number of double precision: it
is not below the middle between the largest such number and the next power of two. -/
def overflows (mantissa : Nat) (power : Int) : Bool :=
  if mantissa = 0 then false
  else
    let width : Int := (Nat.toDigits 10 mantissa).length
    if width + power ≤ 300 then false
    else if 320 < width + power then true
    else
      let bound := Nat.pow 2 1024 - Nat.pow 2 970
      if 0 ≤ power then decide (bound ≤ mantissa * Nat.pow 10 power.toNat)
      else decide (bound * Nat.pow 10 power.natAbs ≤ mantissa)

/-- A number with a fraction or an exponent, or one of the words for infinity and for no number.
Returns the number's text; minus infinity may stand for a number that is too small. -/
def readFloat (text : List Char) : Option (String × List Char) :=
  let (sign, start) := takeSign text
  let written (rest : List Char) := String.ofList (text.take (text.length - rest.length))
  match (takeWord ['i', 'n', 'f'] start).or (takeWord ['n', 'a', 'n'] start) with
  | some rest => some (written rest, rest)
  | none =>
      match readPlain start with
      | none => none
      | some (whole, afterWhole) =>
          let (fraction, afterFraction) := (readFraction afterWhole).getD ([], afterWhole)
          let (exponent, rest) := (readExponent afterFraction).getD (0, afterFraction)
          if rest.length = afterWhole.length then none
          else if sign ≠ some true ∧
              overflows (valueOf 10 (whole ++ fraction)) (exponent - fraction.length) then none
          else some (written rest, rest)

end CallMonitor.Toml
