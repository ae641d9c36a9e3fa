import Scoreboard.Json.Scan

/-! Passing over a value nobody asked for, however deep it is nested. -/

namespace Scoreboard

/-- A list or an object that is still open. -/
inductive Bracket
  | list
  | object
deriving DecidableEq, Repr

/-- The character that closes a bracket. -/
def Bracket.close : Bracket → Char
  | .list => ']'
  | .object => '}'

/-- Where a skipped number literal stands. -/
inductive NumeralMode
  /-- Behind the minus sign. -/
  | sign
  /-- Behind a leading zero. -/
  | zero
  /-- Inside the whole part. -/
  | whole
  /-- Behind the point. -/
  | point
  /-- Inside the fraction. -/
  | fraction
  /-- Behind the exponent mark. -/
  | mark
  /-- Behind the sign of the exponent. -/
  | markSign
  /-- Inside the exponent. -/
  | exponent
deriving DecidableEq, Repr

/-- How a number literal goes on with one more character. -/
inductive NumeralStep
  /-- The character belongs to the literal. -/
  | stay (mode : NumeralMode)
  /-- The literal ended before the character. -/
  | ended
  /-- The literal is broken. -/
  | broken

/-- One more character behind a number literal that may also end here. -/
def NumeralMode.stepEnded (c : Char) (point exponent : Bool) : NumeralStep :=
  if c = '.' ∧ point then .stay .point
  else if (c = 'e' ∨ c = 'E') ∧ exponent then .stay .mark
  else .ended

/-- One more character of a number literal. -/
def NumeralMode.step : NumeralMode → Char → NumeralStep
  | .sign, c => if c = '0' then .stay .zero else if c.isDigit then .stay .whole else .broken
  | .zero, c => if c.isDigit then .broken else NumeralMode.stepEnded c true true
  | .whole, c => if c.isDigit then .stay .whole else NumeralMode.stepEnded c true true
  | .point, c => if c.isDigit then .stay .fraction else .broken
  | .fraction, c => if c.isDigit then .stay .fraction else NumeralMode.stepEnded c false true
  | .mark, c =>
    if c = '+' ∨ c = '-' then .stay .markSign
    else if c.isDigit then .stay .exponent else .broken
  | .markSign, c => if c.isDigit then .stay .exponent else .broken
  | .exponent, c => if c.isDigit then .stay .exponent else .ended

/-- Whether a number literal may end where it stands. -/
def NumeralMode.complete : NumeralMode → Bool
  | .zero | .whole | .fraction | .exponent => true
  | .sign | .point | .mark | .markSign => false

/-- Where the skipping of a value stands. -/
inductive SkipMode
  /-- In front of a value. -/
  | value
  /-- Behind an opening bracket, which may close at once. -/
  | opened (bracket : Bracket)
  /-- In front of a member's name. -/
  | name
  /-- Between a member's name and its colon. -/
  | colon
  /-- Behind a value. -/
  | behind
  /-- Inside a fixed word, with the letters still wanted. -/
  | word (letters : List Char)
  /-- Inside a number literal. -/
  | number (mode : NumeralMode)
  /-- Inside a string, which may be a member's name. -/
  | string (isName : Bool)
  /-- Behind a backslash in a string. -/
  | escape (isName : Bool)
  /-- Inside a hexadecimal escape that owes digits. -/
  | hex (isName : Bool) (owed : Nat)

/-- What skipping does with one more character. -/
inductive SkipStep
  /-- The character is consumed. -/
  | next (mode : SkipMode) (brackets : List Bracket)
  /-- The value ended before the character. -/
  | done
  /-- The text is broken. -/
  | fail (problem : DecodeError)

/-- The step at the first character of a value. -/
def skipStart (brackets : List Bracket) (c : Char) : SkipStep :=
  match c with
  | 'n' => .next (.word "ull".toList) brackets
  | 't' => .next (.word "rue".toList) brackets
  | 'f' => .next (.word "alse".toList) brackets
  | '"' => .next (.string false) brackets
  | '[' => .next (.opened .list) (.list :: brackets)
  | '{' => .next (.opened .object) (.object :: brackets)
  | '-' => .next (.number .sign) brackets
  | '0' => .next (.number .zero) brackets
  | _ => if c.isDigit then .next (.number .whole) brackets else .fail .malformed

/-- The step at a character behind a value. -/
def skipBehind (brackets : List Bracket) (c : Char) : SkipStep :=
  -- With no bracket left open the value is over and the character belongs to whoever asked.
  match brackets with
  | [] => .done
  | bracket :: outer =>
    if isJsonBlank c then .next .behind brackets
    else if c = bracket.close then .next .behind outer
    else if c = ',' then
      .next (match bracket with | .list => .value | .object => .name) brackets
    else .fail .malformed

/-- The mode behind a string's closing quote. -/
def SkipMode.afterString (isName : Bool) : SkipMode :=
  if isName then .colon else .behind

/-- One more character of a skipped value. -/
def skipStep (mode : SkipMode) (brackets : List Bracket) (c : Char) (text : List Char) : SkipStep :=
  match mode with
  | .value => if isJsonBlank c then .next .value brackets else skipStart brackets c
  | .opened bracket =>
    if isJsonBlank c then .next mode brackets
    else if c = bracket.close then .next .behind brackets.tail
    else match bracket with
      | .list => skipStart brackets c
      | .object => if c = '"' then .next (.string true) brackets else .fail .malformed
  | .name =>
    if isJsonBlank c then .next .name brackets
    else if c = '"' then .next (.string true) brackets else .fail .malformed
  | .colon =>
    if isJsonBlank c then .next .colon brackets
    else if c = ':' then .next .value brackets else .fail .malformed
  | .behind => skipBehind brackets c
  | .word [] => skipBehind brackets c
  | .word (letter :: letters) =>
    if letter = c then .next (.word letters) brackets else .fail .malformed
  | .number mode =>
    match mode.step c with
    | .stay mode => .next (.number mode) brackets
    | .ended => skipBehind brackets c
    | .broken => .fail .malformed
  | .string isName =>
    if c = '"' then .next (SkipMode.afterString isName) brackets
    else if c = '\\' then .next (.escape isName) brackets
    else if c < ' ' then .fail .malformed
    else .next (.string isName) brackets
  | .escape isName =>
    if c = 'u' then .next (.hex isName 4) brackets
    else if (unescape? c).isSome then .next (.string isName) brackets
    else .fail .malformed
  | .hex isName owed =>
    match hexValue? c with
    | none => .fail (hexProblem owed (c :: text))
    | some _ => .next (if 1 < owed then .hex isName (owed - 1) else .string isName) brackets

/-- What the end of the text means to a skipped value. -/
def skipEnd (mode : SkipMode) (brackets : List Bracket) : Except DecodeError (List Char) :=
  -- A literal cut off inside is broken; a value that may end here is over if nothing is open.
  let closed : Except DecodeError (List Char) :=
    if brackets.isEmpty then .ok [] else .error .truncated
  match mode with
  | .behind | .word [] => closed
  | .number mode => if mode.complete then closed else .error .malformed
  | _ => .error .truncated

/-- The text behind a value, from a mode with the brackets open around it. -/
def skipFrom : SkipMode → List Bracket → List Char → Except DecodeError (List Char)
  | mode, brackets, [] => skipEnd mode brackets
  | mode, brackets, c :: text =>
    match skipStep mode brackets c text with
    | .next mode brackets => skipFrom mode brackets text
    | .done => .ok (c :: text)
    | .fail problem => .error problem

/-- The text behind the value that comes next. -/
def skipValue (text : List Char) : Except DecodeError (List Char) :=
  skipFrom .value [] text

end Scoreboard
