import ShallowTransfer.Json.Basic

/-!
Reading JSON text. Every scanner takes the characters that are left and gives what it read with the
characters behind it, or with nothing if the text went wrong there and reading cannot go on.
-/

namespace ShallowTransfer.Json

/-- The characters behind what was read, if reading can go on. -/
abbrev Rest := Option (List Char)

/-- Whether a character may stand between the parts of a JSON text. -/
def isFiller (c : Char) : Bool :=
  c = ' ' || c = '\n' || c = '\t' || c = '\r'

/-- The characters without leading filler. -/
def skipFiller (cs : List Char) : List Char :=
  cs.dropWhile isFiller

/-! ### Strings -/

/-- The value of a hexadecimal digit. -/
def hexDigit? (c : Char) : Option Nat :=
  if '0' ≤ c && c ≤ '9' then some (c.toNat - '0'.toNat)
  else if 'a' ≤ c && c ≤ 'f' then some (c.toNat - 'a'.toNat + 10)
  else if 'A' ≤ c && c ≤ 'F' then some (c.toNat - 'A'.toNat + 10)
  else none

/-- The number of bytes of characters in UTF-8. -/
def byteCount (cs : List Char) : Nat :=
  cs.foldl (fun n c => n + c.utf8Size) 0

/-- The unit of two bytes that four hexadecimal digits write. -/
def scanUnit : List Char → Except JsonError (Nat × List Char)
  | a :: b :: c :: d :: rest =>
    match hexDigit? a, hexDigit? b, hexDigit? c, hexDigit? d with
    | some w, some x, some y, some z => .ok (((w * 16 + x) * 16 + y) * 16 + z, rest)
    | _, _, _, _ => .error .malformed
  | cs => if byteCount cs < 4 then .error .truncated else .error .malformed

/-- What an escape in a string gives: a character, half of a character, or a fault. -/
inductive Escape where
  | char (c : Char) (rest : List Char)
  | half (rest : List Char)
  | fault (e : JsonError)

/-- Whether a unit is the first half of a character. -/
def isHighHalf (n : Nat) : Bool := Nat.ble 0xD800 n && Nat.ble n 0xDBFF

/-- Whether a unit is the second half of a character. -/
def isLowHalf (n : Nat) : Bool := Nat.ble 0xDC00 n && Nat.ble n 0xDFFF

/-- The character of two halves. -/
def joinHalves (high low : Nat) : Char :=
  Char.ofNat (0x10000 + (high - 0xD800) * 1024 + (low - 0xDC00))

/-- The second half of a character behind its first half. -/
def scanLowHalf (high : Nat) (rest : List Char) : Escape :=
  match rest with
  | [] => .fault .truncated
  | '\\' :: [] => .fault .truncated
  | '\\' :: 'u' :: digits =>
    match scanUnit digits with
    | .error e => .fault e
    | .ok (low, rest') => if isLowHalf low then .char (joinHalves high low) rest' else .half rest
  | _ => .half rest

/-- The escape behind a backslash. -/
def scanEscape : List Char → Escape
  | [] => .fault .truncated
  | '"' :: rest => .char '"' rest
  | '\\' :: rest => .char '\\' rest
  | '/' :: rest => .char '/' rest
  | 'b' :: rest => .char (Char.ofNat 8) rest
  | 'f' :: rest => .char (Char.ofNat 12) rest
  | 'n' :: rest => .char '\n' rest
  | 'r' :: rest => .char '\r' rest
  | 't' :: rest => .char '\t' rest
  | 'u' :: rest =>
    match scanUnit rest with
    | .error e => .fault e
    | .ok (n, rest') =>
      if isHighHalf n then scanLowHalf n rest'
      else if isLowHalf n then .half rest'
      else .char (Char.ofNat n) rest'
  | _ => .fault .malformed

/-- A string that was scanned: its characters unless it is garbled, and the characters behind it or
the fault that ends it. -/
structure Scanned where
  content : Option (List Char)
  rest : Except JsonError (List Char)

/-- The scanned string with one more character in front. -/
def Scanned.push (c : Char) (s : Scanned) : Scanned :=
  { s with content := s.content.map (c :: ·) }

/-- The characters of a string behind its opening quote. The first number bounds their count. -/
def scanString : Nat → List Char → Scanned
  | 0, _ => ⟨some [], .error .truncated⟩
  | _, [] => ⟨some [], .error .truncated⟩
  | _ + 1, '"' :: rest => ⟨some [], .ok rest⟩
  | fuel + 1, '\\' :: rest =>
    match scanEscape rest with
    | .char c rest' => (scanString fuel rest').push c
    | .half rest' => { scanString fuel rest' with content := none }
    | .fault e => ⟨some [], .error e⟩
  | fuel + 1, c :: rest =>
    if c.toNat < 0x20 then ⟨some [], .error .malformed⟩ else (scanString fuel rest).push c

/-- The value of a scanned string. -/
def stringValue (s : Scanned) : Json × Rest :=
  match s.content, s.rest with
  | some cs, .ok rest => (.str (String.ofList cs), some rest)
  | none, .ok rest => (.garbled none, some rest)
  | some _, .error e => (.broken e .elsewhere, none)
  | none, .error e => (.garbled (some e), none)

/-! ### Numbers and words -/

/-- The number that decimal digits write. -/
def decimal (digits : List Char) : Nat :=
  digits.foldl (fun n c => n * 10 + (c.toNat - '0'.toNat)) 0

/-- The nearest number with 53 binary digits before its zeros; of two the one whose last digit is
zero. -/
def roundReal (n : Nat) : Nat :=
  let unit := Nat.pow 2 (n.log2 + 1 - 53)
  let low := n % unit
  let digits := n / unit
  unit * (if unit < 2 * low || (unit = 2 * low && digits % 2 = 1) then digits + 1 else digits)

/-- A decimal number that is read as a floating point number: `significand · 10 ^ exponent`. -/
structure Decimal where
  significand : Nat
  exponent : Int
deriving Repr, DecidableEq

namespace Decimal

/-- The largest power of ten that a number is multiplied by. -/
def maxExponent : Int := 308

/-- Whether the product of the significand and the power of ten, which are rounded before, is in the
range of floating point numbers. -/
def isFinite (d : Decimal) : Bool :=
  if d.significand = 0 || d.exponent < 0 then true
  else if maxExponent < d.exponent then false
  else roundReal d.significand * roundReal (Nat.pow 10 d.exponent.toNat) < realBound

/-- Reads digits behind a significand as long as it stays below 64 bits, and gives the number of
digits that are left out. -/
def readDigits (significand : Nat) : List Char → Nat × Nat
  | [] => (significand, 0)
  | c :: rest =>
    let next := significand * 10 + (c.toNat - '0'.toNat)
    if Nat.blt next (Nat.pow 2 64) then readDigits next rest else (significand, rest.length + 1)

/-- The number of the digits before and behind the point, times a power of ten. A digit left out
before the point counts as a zero. -/
def ofDigits (whole fraction : List Char) (exponent : Int) : Decimal :=
  let (high, leftOut) := readDigits 0 whole
  let (significand, dropped) := readDigits high fraction
  ⟨significand, exponent + leftOut - (fraction.length - dropped)⟩

end Decimal

/-- The fault of a number where a digit is missing. -/
def missingDigit (rest : List Char) : Json × Rest :=
  (.broken (if rest.isEmpty then .truncated else .malformed) .number, none)

/-- The value of a number without fraction and exponent. -/
def integerValue (negative : Bool) (whole : List Char) : Json :=
  let n := decimal whole
  if negative && n ≠ 0 && Nat.ble n (Nat.pow 2 63) then .int (-(n : Int))
  else if !negative && Nat.blt n (Nat.pow 2 64) then .int n
  else .real (Decimal.ofDigits whole [] 0).isFinite

/-- The exponent of a number behind its letter, or nothing if it has no digits. -/
def scanExponent (cs : List Char) : Option Int × List Char :=
  let negative := cs.head? = some '-'
  let body := if negative || cs.head? = some '+' then cs.tail else cs
  let digits := body.takeWhile Char.isDigit
  let rest := body.dropWhile Char.isDigit
  if digits.isEmpty then (none, rest)
  else (some (if negative then -(decimal digits : Int) else decimal digits), rest)

/-- The rest of a number behind its integer part and its fraction. -/
def finishNumber (negative : Bool) (whole : List Char) (fraction : Option (List Char))
    (rest : List Char) : Json × Rest :=
  match rest with
  | 'e' :: after | 'E' :: after =>
    match scanExponent after with
    | (some e, rest') => (.real (Decimal.ofDigits whole (fraction.getD []) e).isFinite, some rest')
    | (none, rest') => missingDigit rest'
  | _ =>
    match fraction with
    | none => (integerValue negative whole, some rest)
    | some digits => (.real (Decimal.ofDigits whole digits 0).isFinite, some rest)

/-- The digits of a number behind its sign. -/
def scanDigits (negative : Bool) (cs : List Char) : Json × Rest :=
  let whole := cs.takeWhile Char.isDigit
  let rest := cs.dropWhile Char.isDigit
  if whole.isEmpty then missingDigit cs
  else if whole.head? = some '0' && Nat.blt 1 whole.length then (.broken .malformed .number, none)
  else
    match rest with
    | '.' :: after =>
      let fraction := after.takeWhile Char.isDigit
      let rest' := after.dropWhile Char.isDigit
      if fraction.isEmpty then missingDigit rest' else finishNumber negative whole fraction rest'
    | _ => finishNumber negative whole none rest

/-- The number at the front of a text. -/
def scanNumber : List Char → Json × Rest
  | '-' :: rest => scanDigits true rest
  | cs => scanDigits false cs

/-- The word at the front of a text, which stands for the value. -/
def scanWord (value : Json) : List Char → List Char → Json × Rest
  | [], rest => (value, some rest)
  | _ :: _, [] => (.broken .truncated .word, none)
  | w :: word, c :: rest =>
    if c = w then scanWord value word rest else (.broken .malformed .word, none)

/-- The number or word at the front of a text. -/
def scanBare (cs : List Char) : Json × Rest :=
  match cs with
  | 't' :: _ => scanWord (.bool true) ['t', 'r', 'u', 'e'] cs
  | 'f' :: _ => scanWord (.bool false) ['f', 'a', 'l', 's', 'e'] cs
  | 'n' :: _ => scanWord .null ['n', 'u', 'l', 'l'] cs
  | c :: _ => if c = '-' || c.isDigit then scanNumber cs else (.broken .malformed .elsewhere, none)
  | [] => (.broken .truncated .elsewhere, none)

/-! ### Arrays and objects -/

mutual

/-- The value at the front of a text. The number bounds the steps; three for each character are
enough. -/
def scanValue : Nat → List Char → Json × Rest
  | 0, _ => (.broken .truncated .elsewhere, none)
  | fuel + 1, cs =>
    match skipFiller cs with
    | '"' :: rest => stringValue (scanString fuel rest)
    | '[' :: rest =>
      match skipFiller rest with
      | [] => (.arr [] false, none)
      | ']' :: rest' => (.arr [] true, some rest')
      | rest' =>
        let (items, closed, rest'') := scanItems fuel rest'
        (.arr items closed, rest'')
    | '{' :: rest =>
      let (members, tail, rest') := scanMembers fuel false rest
      (.obj members tail, rest')
    | rest => scanBare rest

/-- The items of an array up to its end, and whether there is an end. -/
def scanItems : Nat → List Char → List Json × Bool × Rest
  | 0, _ => ([], false, none)
  | fuel + 1, cs =>
    match scanValue fuel cs with
    | (v, none) => ([v], false, none)
    | (v, some rest) =>
      match skipFiller rest with
      | [] => ([v], false, none)
      | ']' :: rest' => ([v], true, some rest')
      | ',' :: rest' =>
        let (items, closed, rest'') := scanItems fuel rest'
        (v :: items, closed, rest'')
      | _ => ([v, .broken .malformed .elsewhere], false, none)

/-- The members of an object up to its end, behind a comma or at the start. -/
def scanMembers : Nat → Bool → List Char → List (Option String × Json) × MembersEnd × Rest
  | 0, _, _ => ([], .ended true, none)
  | fuel + 1, afterComma, cs =>
    match skipFiller cs with
    | [] => ([], .ended afterComma, none)
    | '}' :: rest =>
      if afterComma then ([], .noKey, none) else ([], .closed, some rest)
    | '"' :: rest =>
      match scanString fuel rest with
      | ⟨some _, .error e⟩ => ([], .brokenKey e, none)
      | ⟨none, .error e⟩ => ([(none, .broken e .elsewhere)], .closed, none)
      | ⟨content, .ok rest'⟩ => scanMember fuel (content.map String.ofList) rest'
    | _ => ([], .noKey, none)

/-- The value of a member behind its key, and the further members. -/
def scanMember : Nat → Option String → List Char → List (Option String × Json) × MembersEnd × Rest
  | 0, _, _ => ([], .ended true, none)
  | fuel + 1, key, cs =>
    match skipFiller cs with
    | [] => ([(key, .broken .truncated .elsewhere)], .closed, none)
    | ':' :: rest =>
      match scanValue fuel rest with
      | (v, none) => ([(key, v)], .closed, none)
      | (v, some rest') =>
        match skipFiller rest' with
        | [] => ([(key, v)], .ended false, none)
        | '}' :: rest'' => ([(key, v)], .closed, some rest'')
        | ',' :: rest'' =>
          let (members, tail, last) := scanMembers fuel true rest''
          ((key, v) :: members, tail, last)
        | _ => ([(key, v)], .noKey, none)
    | _ => ([(key, .broken .malformed .elsewhere)], .closed, none)

end

/-- The value of a JSON text, and whether nothing but filler follows it. -/
def ofText (s : String) : Json × Bool :=
  let cs := s.toList
  match scanValue (3 * cs.length + 3) cs with
  | (v, some rest) => (v, (skipFiller rest).isEmpty)
  | (v, none) => (v, false)

/-- Reads a JSON text that holds a single value. -/
def readText {α : Type} (reader : Json → Except JsonError α) (s : String) : Except JsonError α :=
  let (v, clean) := ofText s
  match reader v with
  | .error e => .error e
  | .ok a => if clean then .ok a else .error .malformed

end ShallowTransfer.Json
