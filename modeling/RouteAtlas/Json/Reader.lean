/-
Module: RouteAtlas.Json.Reader
Purpose: Reading a JSON text in one pass.
Main exports: Json.Document, Json.read
-/
import RouteAtlas.Json.Reading

namespace RouteAtlas.Json

/-! ## Strings -/

/-- What a scan of a string body found.  A flawed string is closed but denotes
no text, because an escape in it names half of a pair. -/
inductive Scanned where
  | text (chars : List Char) (rest : List Char)
  | flawed (rest : List Char)
  | broken (used skipped : Break)
deriving Repr, DecidableEq

/-- Where a scan stands inside a string body. -/
inductive ScanState where
  /-- Outside escapes. -/
  | plain
  /-- After a backslash. -/
  | escape
  /-- After `\u` and some of its four digits; `high` is the first half of a
  pair whose second half is being read. -/
  | hex (count value : Nat) (high : Option Nat)
  /-- After the first half of a pair. -/
  | paired (high : Nat)
  /-- After the first half of a pair and a backslash. -/
  | pairedEscape (high : Nat)
deriving Repr, DecidableEq

/-- The value of a hexadecimal digit. -/
def hexDigit? (c : Char) : Option Nat :=
  if '0' ≤ c && c ≤ '9' then some (c.toNat - 48)
  else if 'a' ≤ c && c ≤ 'f' then some (c.toNat - 87)
  else if 'A' ≤ c && c ≤ 'F' then some (c.toNat - 55)
  else none

/-- The character that a one-letter escape stands for. -/
def simpleEscape? (c : Char) : Option Char :=
  if c = '"' || c = '\\' || c = '/' then some c
  else if c = 'b' then some (Char.ofNat 8)
  else if c = 'f' then some (Char.ofNat 12)
  else if c = 'n' then some '\n'
  else if c = 'r' then some '\r'
  else if c = 't' then some '\t'
  else none

/-- The break at a character that is no hexadecimal digit, `count` digits into
an escape: four bytes are taken at once, so too few of them is an early end. -/
def hexBreak (count : Nat) (rest : List Char) : Break :=
  if count + (rest.take 4).foldl (fun n c => n + c.utf8Size) 0 < 4 then .early
  else .malformed

/-- The break met when a string is used that is already known to be flawed. -/
def usedBreak (sound : Bool) (reason : Break) : Break :=
  if sound then reason else .malformed

/-- The character of a pair of halves. -/
def pairChar (high low : Nat) : Char :=
  Char.ofNat ((high - 0xD800) * 0x400 + (low - 0xDC00) + 0x10000)

/-- Scan a string body.  `done` holds the characters read so far, last first;
`sound` tells whether every escape up to here denotes a character. -/
def scanString (state : ScanState) (sound : Bool) (done : List Char) :
    List Char → Scanned
  | [] => .broken (usedBreak sound .early) .early
  | c :: rest =>
      let outside (sound : Bool) : Scanned :=
        if c = '"' then
          if sound then .text done.reverse rest else .flawed rest
        else if c = '\\' then scanString .escape sound done rest
        else if c.toNat < 0x20 then .broken .malformed .malformed
        else scanString .plain sound (c :: done) rest
      let escaped (sound : Bool) : Scanned :=
        if c = 'u' then scanString (.hex 0 0 none) sound done rest
        else
          match simpleEscape? c with
          | some char => scanString .plain sound (char :: done) rest
          | none => .broken .malformed .malformed
      match state with
      | .plain => outside sound
      | .escape => escaped sound
      | .paired high =>
          if c = '\\' then scanString (.pairedEscape high) sound done rest
          else outside false
      | .pairedEscape high =>
          if c = 'u' then scanString (.hex 0 0 (some high)) sound done rest
          else escaped false
      | .hex count value high =>
          match hexDigit? c with
          | none =>
              let reason := hexBreak count (c :: rest)
              .broken (usedBreak sound reason) reason
          | some digit =>
              let value := 16 * value + digit
              if count < 3 then
                scanString (.hex (count + 1) value high) sound done rest
              else
                let isHigh := 0xD800 ≤ value && value ≤ 0xDBFF
                let isLow := 0xDC00 ≤ value && value ≤ 0xDFFF
                match high with
                | some first =>
                    if isLow then
                      scanString .plain sound (pairChar first value :: done) rest
                    else scanString .plain false done rest
                | none =>
                    if isHigh then
                      if sound then scanString (.paired value) sound done rest
                      else scanString .plain sound done rest
                    else if isLow then scanString .plain false done rest
                    else scanString .plain sound (Char.ofNat value :: done) rest

/-! ## Literals and numerals -/

/-- Whether a character is a decimal digit. -/
def isDigit (c : Char) : Bool :=
  '0' ≤ c && c ≤ '9'

/-- The rest of a literal whose first letter has been read. -/
def readLiteral (value : Reading) : List Char → List Char → Reading × List Char
  | [], rest => (value, rest)
  | _ :: _, [] => (.broken true .early .early, [])
  | expected :: more, c :: rest =>
      if c = expected then readLiteral value more rest
      else (.broken true .malformed .malformed, [])

/-- A numeral that stops where a digit is due. -/
def digitDue (rest : List Char) : Reading × List Char :=
  if rest.isEmpty then (.broken true .early .malformed, [])
  else (.broken true .malformed .malformed, [])

/-- A complete numeral as a value. -/
def readNumeral (numeral : Numeral) (rest : List Char) : Reading × List Char :=
  match numeral.value with
  | some number => (.number number, rest)
  | none => (.unusable, rest)

/-- The power of ten of a numeral, if it has one. -/
def readPower (negative : Bool) (whole : List Char)
    (fraction : Option (List Char)) : List Char → Reading × List Char
  | [] => readNumeral ⟨negative, whole, fraction, none⟩ []
  | c :: rest =>
      if c = 'e' || c = 'E' then
        let (down, digits) :=
          match rest with
          | [] => (false, [])
          | sign :: more =>
              if sign = '+' then (false, more)
              else if sign = '-' then (true, more)
              else (false, rest)
        let power := digits.takeWhile isDigit
        if power.isEmpty then digitDue digits
        else
          readNumeral ⟨negative, whole, fraction, some (down, power)⟩
            (digits.dropWhile isDigit)
      else readNumeral ⟨negative, whole, fraction, none⟩ (c :: rest)

/-- The digits after the point of a numeral, if it has a point, and what
follows them. -/
def readFraction (negative : Bool) (whole : List Char) :
    List Char → Reading × List Char
  | [] => readPower negative whole none []
  | c :: rest =>
      if c = '.' then
        let digits := rest.takeWhile isDigit
        if digits.isEmpty then digitDue rest
        else readPower negative whole (some digits) (rest.dropWhile isDigit)
      else readPower negative whole none (c :: rest)

/-- A number whose sign has been read.  A leading zero stands alone. -/
def readNumber (negative : Bool) (s : List Char) : Reading × List Char :=
  let whole := s.takeWhile isDigit
  let rest := s.dropWhile isDigit
  match whole with
  | [] => digitDue rest
  | '0' :: _ :: _ => (.broken true .malformed .malformed, [])
  | _ => readFraction negative whole rest

/-! ## Values -/

/-- Drop the blanks between tokens. -/
def skipBlanks (s : List Char) : List Char :=
  s.dropWhile fun c => c = ' ' || c = '\n' || c = '\t' || c = '\r'

/-- The name of a member, after its opening quote. -/
def readKey (s : List Char) : Key × List Char :=
  match scanString .plain true [] s with
  | .text chars rest => (.name (String.ofList chars), rest)
  | .flawed rest => (.unusable, rest)
  | .broken used skipped => (.broken used skipped, [])

mutual

/-- Read one value.  The first argument bounds the recursion. -/
def readValue : Nat → List Char → Reading × List Char
  | 0, _ => (.broken false .early .early, [])
  | fuel + 1, s =>
      match skipBlanks s with
      | [] => (.broken false .early .early, [])
      | c :: rest =>
          if c = '"' then
            match scanString .plain true [] rest with
            | .text chars rest => (.string (String.ofList chars), rest)
            | .flawed rest => (.unusable, rest)
            | .broken used skipped => (.broken false used skipped, [])
          else if c = '[' then
            let (items, rest) := readItems fuel rest
            (.array items, rest)
          else if c = '\x7b' then
            let (members, rest) := readMembers fuel rest
            (.object members, rest)
          else if c = 'n' then readLiteral .null ['u', 'l', 'l'] rest
          else if c = 't' then readLiteral (.bool true) ['r', 'u', 'e'] rest
          else if c = 'f' then readLiteral (.bool false) ['a', 'l', 's', 'e'] rest
          else if c = '-' then readNumber true rest
          else if isDigit c then readNumber false (c :: rest)
          else (.broken true .malformed .malformed, [])

/-- Read what follows an opening bracket. -/
def readItems : Nat → List Char → Items × List Char
  | 0, _ => (.broken .early, [])
  | fuel + 1, s =>
      match skipBlanks s with
      | [] => (.broken .early, [])
      | c :: rest =>
          if c = ']' then (.close, rest)
          else
            let (head, rest) := readValue fuel (c :: rest)
            let (tail, rest) := readMoreItems fuel rest
            (.item head tail, rest)

/-- Read what follows an item. -/
def readMoreItems : Nat → List Char → Items × List Char
  | 0, _ => (.broken .early, [])
  | fuel + 1, s =>
      match skipBlanks s with
      | [] => (.broken .early, [])
      | c :: rest =>
          if c = ']' then (.close, rest)
          else if c = ',' then
            let (head, rest) := readValue fuel rest
            let (tail, rest) := readMoreItems fuel rest
            (.item head tail, rest)
          else (.broken .malformed, [])

/-- Read what follows an opening brace. -/
def readMembers : Nat → List Char → Members × List Char
  | 0, _ => (.broken .early, [])
  | fuel + 1, s =>
      match skipBlanks s with
      | [] => (.broken .early, [])
      | c :: rest =>
          if c = '\x7d' then (.close, rest)
          else if c = '"' then readMember fuel rest
          else
            let (found, _) := readValue fuel (c :: rest)
            (.keyless found, [])

/-- Read a member after the opening quote of its name, and what follows it. -/
def readMember : Nat → List Char → Members × List Char
  | 0, _ => (.broken .early, [])
  | fuel + 1, s =>
      let (key, rest) := readKey s
      match skipBlanks rest with
      | [] => (.member key (.broken false .early .early) (.broken .early), [])
      | c :: rest =>
          if c = ':' then
            let (value, rest) := readValue fuel rest
            let (tail, rest) := readMoreMembers fuel rest
            (.member key value tail, rest)
          else
            (.member key (.broken true .malformed .malformed) (.broken .malformed), [])

/-- Read what follows a member. -/
def readMoreMembers : Nat → List Char → Members × List Char
  | 0, _ => (.broken .early, [])
  | fuel + 1, s =>
      match skipBlanks s with
      | [] => (.broken .early, [])
      | c :: rest =>
          if c = '\x7d' then (.close, rest)
          else if c = ',' then
            match skipBlanks rest with
            | [] => (.member (.broken .early .early) .null (.broken .early), [])
            | c :: rest =>
                if c = '"' then readMember fuel rest
                else
                  (.member (.broken .malformed .malformed) .null
                    (.broken .malformed), [])
          else (.broken .malformed, [])

end

/-! ## Documents -/

/-- A text as it is read: a value, and whether anything but blanks follows
it. -/
structure Document where
  value : Reading
  trailing : Bool

/-- Read a text.  Each character is looked at by at most two steps of the
recursion. -/
def read (text : String) : Document :=
  let chars := text.toList
  let (value, rest) := readValue (2 * chars.length + 2) chars
  ⟨value, !(skipBlanks rest).isEmpty⟩

end RouteAtlas.Json
