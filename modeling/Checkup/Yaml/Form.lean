import Checkup.Yaml.Cursor

/-!
The tags that plain scalars get by their form.

A plain scalar without a tag of its own stands for the kind of value that its text looks like:
truth values and null by their words, numbers and dates by their grammars, everything else is text.
So does any scalar whose tag leaves the choice open. The grammars of YAML 1.1 know octal numbers by
a leading zero, numbers to the base 60 by colons, and exponents only with a point and a sign.

Main definition: `resolve`.
-/

namespace Checkup.Yaml

def commonTag (name : String) : String := "tag:yaml.org,2002:" ++ name

/-- Digits with underscores among them, the first a digit. -/
def isDigits (cs : List Char) : Bool :=
  cs.head?.elim false Char.isDigit && cs.all fun c => c.isDigit || c == '_'

/-- Text without a sign in front. -/
def unsigned : List Char → List Char
  | '+' :: rest => rest
  | '-' :: rest => rest
  | rest => rest

def colonParts (cs : List Char) : List (List Char) := cs.splitOn ':'

/-- A place of a number to the base 60: one digit, or two up to 59. -/
def isSixtieth : List Char → Bool
  | [a] => a.isDigit
  | [a, b] => '0' ≤ a && a ≤ '5' && b.isDigit
  | _ => false

/-- Whole numbers: binary, octal, decimal, hexadecimal, and to the base 60. -/
def isIntForm (text : List Char) : Bool :=
  let cs := unsigned text
  match cs with
  | '0' :: 'b' :: rest => !rest.isEmpty && rest.all fun c => c == '0' || c == '1' || c == '_'
  | '0' :: 'x' :: rest => !rest.isEmpty && rest.all fun c => isHexDigit c || c == '_'
  | '0' :: rest => rest.all fun c => ('0' ≤ c && c ≤ '7') || c == '_'
  | _ =>
    match colonParts cs with
    | [whole] => isDigits whole
    | first :: places => isDigits first && places.all isSixtieth
    | [] => false

/-- An exponent with a sign, or nothing. -/
def isExponentForm : List Char → Bool
  | [] => true
  | mark :: sign :: ds =>
    (mark == 'e' || mark == 'E') && (sign == '+' || sign == '-') && !ds.isEmpty &&
      ds.all Char.isDigit
  | _ => false

def isDigitMark (c : Char) : Bool := c.isDigit || c == '_'

/-- Numbers with a point: decimal, to the base 60, infinite, and not a number. -/
def isFloatForm (text : List Char) : Bool :=
  let cs := unsigned text
  let word := String.ofList cs
  if word == ".inf" || word == ".Inf" || word == ".INF" then true
  else if [".nan", ".NaN", ".NAN"].contains (String.ofList text) then true
  else
    let whole := cs.takeWhile (· != '.')
    match cs.dropWhile (· != '.') with
    | '.' :: behind =>
      let fraction := behind.takeWhile isDigitMark
      let rest := behind.dropWhile isDigitMark
      match whole with
      | [] => text == cs && isDigits fraction && isExponentForm rest
      | _ =>
        match colonParts whole with
        | [digits] => isDigits digits && isExponentForm rest
        | first :: places => isDigits first && places.all isSixtieth && rest.isEmpty
        | [] => false
    | _ => false

/-- The parts of a date with or without a time, as digits. -/
structure StampParts where
  year : List Char
  month : List Char
  day : List Char
  /-- Hour, minute, second and the digits of the fraction. -/
  time : Option (List Char × List Char × List Char × List Char) := none
  /-- Universal time, or a sign with hours and minutes. -/
  zone : Option (Option (Bool × List Char × List Char)) := none

/-- One or two digits, then the rest. -/
def oneOrTwo (cs : List Char) : Option (List Char × List Char) :=
  match cs with
  | a :: b :: rest =>
    if a.isDigit then (if b.isDigit then some ([a, b], rest) else some ([a], b :: rest)) else none
  | [a] => if a.isDigit then some ([a], []) else none
  | [] => none

/-- A given character, then two digits, then the rest. -/
def markedTwo (mark : Char) (cs : List Char) : Option (List Char × List Char) :=
  match cs with
  | m :: a :: b :: rest =>
    if m == mark && a.isDigit && b.isDigit then some ([a, b], rest) else none
  | _ => none

def isBlank (c : Char) : Bool := c == ' ' || c == '\t'

/-- Reads the zone behind a time, up to the end. -/
def zoneParts (cs : List Char) : Option (Option (Option (Bool × List Char × List Char))) :=
  if cs.isEmpty then some none
  else match cs.dropWhile isBlank with
    | ['Z'] => some (some none)
    | sign :: rest =>
      if sign == '+' || sign == '-' then do
        let (hours, rest) ← oneOrTwo rest
        if rest.isEmpty then return some (some (sign == '-', hours, []))
        else
          let (minutes, rest) ← markedTwo ':' rest
          if rest.isEmpty then return some (some (sign == '-', hours, minutes)) else none
      else none
    | [] => none

/-- Reads the time behind a date, up to the end. -/
def timeParts (cs : List Char) :
    Option ((List Char × List Char × List Char × List Char) ×
      Option (Option (Bool × List Char × List Char))) := do
  let (hour, rest) ← oneOrTwo cs
  let (minute, rest) ← markedTwo ':' rest
  let (second, rest) ← markedTwo ':' rest
  let (fraction, rest) := match rest with
    | '.' :: more => (more.takeWhile Char.isDigit, more.dropWhile Char.isDigit)
    | _ => ([], rest)
  let zone ← zoneParts rest
  return ((hour, minute, second, fraction), zone)

/-- The parts of a date, with a time or without. -/
def stampParts (cs : List Char) : Option StampParts := do
  let year := cs.take 4
  if year.length ≠ 4 ∨ !year.all Char.isDigit then none
  else
    let (month, rest) ← match cs.drop 4 with
      | '-' :: rest => oneOrTwo rest
      | _ => none
    let (day, rest) ← match rest with
      | '-' :: rest => oneOrTwo rest
      | _ => none
    match rest with
    | [] => return { year, month, day }
    | 'T' :: rest | 't' :: rest =>
      let (time, zone) ← timeParts rest
      return { year, month, day, time := some time, zone }
    | c :: _ =>
      if isBlank c then
        let (time, zone) ← timeParts (rest.dropWhile isBlank)
        return { year, month, day, time := some time, zone }
      else none

/-- Dates, which need all their digits, and dates with a time. -/
def isStampForm (cs : List Char) : Bool :=
  match stampParts cs with
  | none => false
  | some parts => parts.time.isSome || (parts.month.length == 2 && parts.day.length == 2)

def truthWords : List String :=
  ["yes", "Yes", "YES", "no", "No", "NO", "true", "True", "TRUE", "false", "False", "FALSE",
   "on", "On", "ON", "off", "Off", "OFF"]

def withoutLastBreak (cs : List Char) : List Char :=
  if cs.getLast? == some '\n' then cs.dropLast else cs

/-- The tag that the form of a text asks for. A line feed at its end does not count, unless it is
all there is. -/
def resolve (text : Text.Points) : String :=
  let written := text.chars
  let cs := withoutLastBreak written
  let word := String.ofList cs
  commonTag <|
    if written == ['\n'] then "str"
    else if truthWords.contains word then "bool"
    else if isFloatForm cs then "float"
    else if isIntForm cs then "int"
    else if word == "<<" then "merge"
    else if ["", "~", "null", "Null", "NULL"].contains word then "null"
    else if isStampForm cs then "timestamp"
    else if word == "=" then "value"
    else if ["!", "&", "*"].contains word then "yaml"
    else "str"

end Checkup.Yaml
