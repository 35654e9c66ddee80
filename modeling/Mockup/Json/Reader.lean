import Mockup.Json.Basic
import Mockup.Number.Scaling

namespace Mockup

namespace Json

/-!
# Reading JSON one character at a time

The reader is a pushdown automaton.  A step takes one character and either
moves on or finds the text malformed; reading a text is a left fold of steps.
Whatever follows a malformed text therefore cannot repair it, and a text that
is neither finished nor malformed is *incomplete*.

The grammar is strict JSON.  Four rules need a word of explanation.  The
four characters after `\u` are judged once four bytes have arrived.  A number
is judged when its token ends, also at the end of the text.  Containers may
nest to a limit, and the bracket beyond it is malformed.  A part that nobody
reads is held to the grammar alone: numbers may overflow in it, escapes may
leave surrogates unpaired, and containers may nest without a limit.
-/

/-- Why a text has no tree. -/
inductive ReadError where
  | incomplete
  | malformed
  deriving Repr, DecidableEq

/-- How far a number token has got. -/
inductive NumberPhase where
  | minus
  | zero
  | whole
  | point
  | fraction
  | mark
  | sign
  | exponent
  deriving Repr, DecidableEq

namespace NumberPhase

/-- Whether a number may end here. -/
def mayEnd : NumberPhase → Bool
  | .zero =>
      true
  | .whole =>
      true
  | .fraction =>
      true
  | .exponent =>
      true
  | _ =>
      false

/-- Whether the token has neither a point nor an exponent so far. -/
def isInteger : NumberPhase → Bool
  | .minus =>
      true
  | .zero =>
      true
  | .whole =>
      true
  | _ =>
      false

/-- Whether a character marks an exponent. -/
def isMark
    (char : Char) :
    Bool :=
  char = 'e' || char = 'E'

/-- The phase after one more character, none when it cannot belong. -/
def next?
    (phase : NumberPhase)
    (char : Char) :
    Option NumberPhase :=
  match phase with
  | .minus =>
      if char = '0' then some .zero
      else if char.isDigit then some .whole
      else none
  | .zero =>
      if char = '.' then some .point
      else if isMark char then some .mark
      else none
  | .whole =>
      if char.isDigit then some .whole
      else if char = '.' then some .point
      else if isMark char then some .mark
      else none
  | .point =>
      if char.isDigit then some .fraction else none
  | .fraction =>
      if char.isDigit then some .fraction
      else if isMark char then some .mark
      else none
  | .mark =>
      if char.isDigit then some .exponent
      else if char = '+' || char = '-' then some .sign
      else none
  | .sign =>
      if char.isDigit then some .exponent else none
  | .exponent =>
      if char.isDigit then some .exponent else none

end NumberPhase

/-- A number token: its phase and its characters, the last one first. -/
structure NumberToken where
  phase : NumberPhase
  reversed : List Char
  deriving Repr, DecidableEq

/-- The greatest integer literal that is kept as an integer. -/
def greatestInteger : Int :=
  Int.pow 2 64 - 1

/--
The integer of a literal, none when it is kept as a double: minus zero, and
what 64 bits cannot hold.
-/
def integerLiteral?
    (negative : Bool)
    (digits : List Char) :
    Option Int :=
  let magnitude : Int := Text.naturalOfDigits digits
  if negative then
    if magnitude = 0 || magnitude > -Value.intBounds.1 then
      none
    else
      some (-magnitude)
  else if magnitude ≤ greatestInteger then
    some magnitude
  else
    none

/-- The double that scaling finds for a literal, none when it overflows. -/
def doubleLiteral?
    (literal : List Char) :
    Option Json :=
  match Double.ofScaledChars? literal with
  | some double =>
      if double.isFinite then some (.number double) else none
  | none =>
      none

/-- The tree of a complete number token, none when it overflows. -/
def NumberToken.tree?
    (token : NumberToken) :
    Option Json :=
  let literal := token.reversed.reverse
  let (negative, digits) := Decimal.signed literal
  if token.phase.isInteger then
    match integerLiteral? negative digits with
    | some value =>
        some (.integer value)
    | none =>
        doubleLiteral? literal
  else
    doubleLiteral? literal

/-- Where a string stands inside an escape. -/
inductive Escape where
  | none
  | begun
  | hex (high : Option Nat) (reversed : List Char)
  | lowBackslash (high : Nat)
  | lowMark (high : Nat)
  deriving Repr, DecidableEq

/-- A string token: its characters, the last one first, and its escape. -/
structure StringToken where
  reversed : List Char
  escape : Escape
  deriving Repr, DecidableEq

namespace StringToken

/-- The value of a hexadecimal digit. -/
def hexDigit?
    (char : Char) :
    Option Nat :=
  if char.isDigit then
    some (char.toNat - '0'.toNat)
  else if 'a' ≤ char && char ≤ 'f' then
    some (char.toNat - 'a'.toNat + 10)
  else if 'A' ≤ char && char ≤ 'F' then
    some (char.toNat - 'A'.toNat + 10)
  else
    none

/-- The number written by hexadecimal digits, most significant first. -/
def hexNumber?
    (digits : List Char) :
    Option Nat :=
  digits.foldl
    (fun sum? digit => do
      let sum ← sum?
      let value ← hexDigit? digit
      some (sum * 16 + value))
    (some 0)

/-- The character of a simple escape. -/
def simpleEscape? : Char → Option Char
  | '"' =>
      some '"'
  | '\\' =>
      some '\\'
  | '/' =>
      some '/'
  | 'b' =>
      some (Char.ofNat 0x08)
  | 'f' =>
      some (Char.ofNat 0x0C)
  | 'n' =>
      some '\n'
  | 'r' =>
      some '\r'
  | 't' =>
      some '\t'
  | _ =>
      none

/-- The token with one more character and no escape under way. -/
def push
    (token : StringToken)
    (char : Char) :
    StringToken :=
  ⟨char :: token.reversed, .none⟩

/--
The token after a unit of UTF-16: a low surrogate must follow a high one and
nothing else.  In an ignored text every unit stands for itself.
-/
def pushUnit?
    (ignored : Bool)
    (token : StringToken)
    (high : Option Nat)
    (unit : Nat) :
    Option StringToken :=
  let isHigh := !ignored && 0xD800 ≤ unit && unit ≤ 0xDBFF
  let isLow := !ignored && 0xDC00 ≤ unit && unit ≤ 0xDFFF
  match high with
  | some first =>
      if isLow then
        some (token.push
          (Char.ofNat
            (0x10000 + (first - 0xD800) * 0x400 + (unit - 0xDC00))))
      else
        none
  | none =>
      if isLow then
        none
      else if isHigh then
        some ⟨token.reversed, .lowBackslash unit⟩
      else
        some (token.push (Char.ofNat unit))

/-- How many bytes the characters take. -/
def byteCount
    (chars : List Char) :
    Nat :=
  chars.foldl (fun count char => count + char.utf8Size) 0

/-- The token after one more character of a `\u` escape. -/
def pushHex?
    (ignored : Bool)
    (token : StringToken)
    (high : Option Nat)
    (reversed : List Char) :
    Option StringToken :=
  if byteCount reversed < 4 then
    some ⟨token.reversed, .hex high reversed⟩
  else
    match hexNumber? reversed.reverse with
    | some unit =>
        token.pushUnit? ignored high unit
    | none =>
        none

/--
The token after one more character; the quote that ends a string is not
passed to it.
-/
def step?
    (ignored : Bool)
    (token : StringToken)
    (char : Char) :
    Option StringToken :=
  match token.escape with
  | .none =>
      if char = '\\' then
        some ⟨token.reversed, .begun⟩
      else if char.toNat < 0x20 then
        none
      else
        some (token.push char)
  | .begun =>
      if char = 'u' then
        some ⟨token.reversed, .hex none []⟩
      else
        (simpleEscape? char).map token.push
  | .hex high reversed =>
      token.pushHex? ignored high (char :: reversed)
  | .lowBackslash high =>
      if char = '\\' then
        some ⟨token.reversed, .lowMark high⟩
      else
        none
  | .lowMark high =>
      if char = 'u' then
        some ⟨token.reversed, .hex (some high) []⟩
      else
        none

/-- Whether a character ends the string. -/
def isEnd
    (token : StringToken)
    (char : Char) :
    Bool :=
  token.escape = .none && char = '"'

/-- The text of the token. -/
def text
    (token : StringToken) :
    String :=
  String.ofList token.reversed.reverse

end StringToken

/-- An open container: its parts, the last one first. -/
inductive Frame where
  | array (reversed : List Json)
  | object (reversed : List (String × Json)) (key : String)
  deriving Repr

namespace Frame

/-- The frame with one more part. -/
def add
    (frame : Frame)
    (part : Json) :
    Frame :=
  match frame with
  | .array reversed =>
      .array (part :: reversed)
  | .object reversed key =>
      .object ((key, part) :: reversed) key

/-- The bracket that closes the container. -/
def closing : Frame → Char
  | .array _ =>
      ']'
  | .object _ _ =>
      '\x7d'

/-- The tree of the container. -/
def tree : Frame → Json
  | .array reversed =>
      .array reversed.reverse
  | .object reversed _ =>
      .object reversed.reverse

end Frame

/-- What a reader holds a text to, beyond the grammar. -/
structure Demands where
  /-- How many containers may be open at once. -/
  limit : Nat
  /-- Whether the part inside some open containers is read by nobody. -/
  ignores : List Frame → Bool

namespace Demands

/-- How many containers may be open at once in a document. -/
def nestingLimit : Nat :=
  127

/-- The demands on a text of which every part is read. -/
def strict : Demands :=
  ⟨nestingLimit, fun _ => false⟩

end Demands

/-- What the reader expects next. -/
inductive Mode where
  | value
  | firstItem
  | firstKey
  | nextKey
  | colon (key : String)
  | afterPart
  | word (rest : List Char) (result : Json)
  | number (token : NumberToken)
  | key (token : StringToken)
  | string (token : StringToken)
  | done (document : Json)
  deriving Repr

/-- The state of the reader: the open containers, innermost first. -/
structure Reader where
  stack : List Frame
  mode : Mode
  deriving Repr

namespace Reader

/-- The reader before the first character. -/
def start : Reader :=
  ⟨[], .value⟩

/-- Whether a character is insignificant between tokens. -/
def isSpace
    (char : Char) :
    Bool :=
  char = ' ' || char = '\t' || char = '\n' || char = '\r'

/-- The reader after a complete part of the innermost open container. -/
def finishPart
    (stack : List Frame)
    (part : Json) :
    Reader :=
  match stack with
  | [] =>
      ⟨[], .done part⟩
  | frame :: outer =>
      ⟨frame.add part :: outer, .afterPart⟩

/-- The reader inside one more container, none beyond the nesting limit. -/
def enter?
    (demands : Demands)
    (stack : List Frame)
    (frame : Frame)
    (mode : Mode) :
    Option Reader :=
  if stack.length < demands.limit || demands.ignores stack then
    some ⟨frame :: stack, mode⟩
  else
    none

/-- The reader after the first character of a value. -/
def startValue?
    (demands : Demands)
    (stack : List Frame)
    (char : Char) :
    Option Reader :=
  if char = '"' then
    some ⟨stack, .string ⟨[], .none⟩⟩
  else if char = '[' then
    enter? demands stack (.array []) .firstItem
  else if char = '\x7b' then
    enter? demands stack (.object [] "") .firstKey
  else if char = 't' then
    some ⟨stack, .word "rue".toList (.bool true)⟩
  else if char = 'f' then
    some ⟨stack, .word "alse".toList (.bool false)⟩
  else if char = 'n' then
    some ⟨stack, .word "ull".toList .null⟩
  else if char = '-' then
    some ⟨stack, .number ⟨.minus, [char]⟩⟩
  else if char = '0' then
    some ⟨stack, .number ⟨.zero, [char]⟩⟩
  else if char.isDigit then
    some ⟨stack, .number ⟨.whole, [char]⟩⟩
  else
    none

/-- The reader after the bracket that closes the innermost container. -/
def leave?
    (stack : List Frame)
    (char : Char) :
    Option Reader :=
  match stack with
  | [] =>
      none
  | frame :: outer =>
      if char = frame.closing then
        some (finishPart outer frame.tree)
      else
        none

/-- The reader after a comma. -/
def separate? : List Frame → Option Reader
  | [] =>
      none
  | .array reversed :: outer =>
      some ⟨.array reversed :: outer, .value⟩
  | .object reversed key :: outer =>
      some ⟨.object reversed key :: outer, .nextKey⟩

/-- The reader after the colon behind a key. -/
def associate?
    (key : String) :
    List Frame → Option Reader
  | .object reversed _ :: outer =>
      some ⟨.object reversed key :: outer, .value⟩
  | _ =>
      none

/-- One character outside of a number token. -/
def stepPlain?
    (demands : Demands)
    (reader : Reader)
    (char : Char) :
    Option Reader :=
  match reader.mode with
  | .value =>
      if isSpace char then some reader
      else startValue? demands reader.stack char
  | .firstItem =>
      if isSpace char then some reader
      else if char = ']' then leave? reader.stack char
      else startValue? demands reader.stack char
  | .firstKey =>
      if isSpace char then some reader
      else if char = '"' then some ⟨reader.stack, .key ⟨[], .none⟩⟩
      else leave? reader.stack char
  | .nextKey =>
      if isSpace char then some reader
      else if char = '"' then some ⟨reader.stack, .key ⟨[], .none⟩⟩
      else none
  | .colon key =>
      if isSpace char then some reader
      else if char = ':' then associate? key reader.stack
      else none
  | .afterPart =>
      if isSpace char then some reader
      else if char = ',' then separate? reader.stack
      else leave? reader.stack char
  | .word [] _ =>
      none
  | .word [last] result =>
      if char = last then some (finishPart reader.stack result)
      else none
  | .word (wanted :: rest) result =>
      if char = wanted then some ⟨reader.stack, .word rest result⟩
      else none
  | .number _ =>
      none
  | .key token =>
      if token.isEnd char then
        some ⟨reader.stack, .colon token.text⟩
      else
        let ignored := demands.ignores reader.stack.tail
        (token.step? ignored char).map fun next =>
          ⟨reader.stack, .key next⟩
  | .string token =>
      if token.isEnd char then
        some (finishPart reader.stack (.string token.text))
      else
        let ignored := demands.ignores reader.stack
        (token.step? ignored char).map fun next =>
          ⟨reader.stack, .string next⟩
  | .done _ =>
      if isSpace char then some reader else none

/-- The reader after a number token that ends here. -/
def finishNumber?
    (demands : Demands)
    (stack : List Frame)
    (token : NumberToken) :
    Option Reader :=
  if token.phase.mayEnd then
    match token.tree? with
    | some part =>
        some (finishPart stack part)
    | none =>
        if demands.ignores stack then
          some (finishPart stack .null)
        else
          none
  else
    none

/-- One character: none when it makes the text malformed. -/
def step?
    (demands : Demands)
    (reader : Reader)
    (char : Char) :
    Option Reader :=
  match reader.mode with
  | .number token =>
      match token.phase.next? char with
      | some phase =>
          some ⟨reader.stack, .number ⟨phase, char :: token.reversed⟩⟩
      | none =>
          match finishNumber? demands reader.stack token with
          | some finished =>
              finished.stepPlain? demands char
          | none =>
              none
  | _ =>
      reader.stepPlain? demands char

/-- The reader after all characters of a text. -/
def run?
    (demands : Demands)
    (reader : Reader) :
    List Char → Option Reader
  | [] =>
      some reader
  | char :: rest =>
      match reader.step? demands char with
      | some next =>
          run? demands next rest
      | none =>
          none

/-- The tree that has been read when the text ends here. -/
def finish
    (reader : Reader) :
    Except ReadError Json :=
  match reader.mode with
  | .done document =>
      .ok document
  | .number token =>
      if token.phase.mayEnd then
        match token.tree?, reader.stack with
        | some document, [] =>
            .ok document
        | some _, _ :: _ =>
            .error .incomplete
        | none, _ =>
            .error .malformed
      else
        .error .incomplete
  | _ =>
      .error .incomplete

end Reader

/-- Read a text that is held to the demands. -/
def readWith
    (demands : Demands)
    (text : String) :
    Except ReadError Json :=
  match Reader.start.run? demands text.toList with
  | some reader =>
      reader.finish
  | none =>
      .error .malformed

/-- Read a text of which every part counts. -/
def read
    (text : String) :
    Except ReadError Json :=
  readWith .strict text

end Json

end Mockup
