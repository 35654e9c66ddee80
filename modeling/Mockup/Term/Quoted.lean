import Mockup.Term.Numeral

namespace Mockup

namespace Term

/-!
# Quoted texts in terms

Texts and single characters stand in quotes and may hold escapes; so may
strings of bytes and single bytes, which have a `b` in front.  Raw texts have
no escapes and end with as many `#` as they began with.  Nothing of the texts
is kept: each function gives what follows one.
-/

/-- What stands between the quotes. -/
inductive Quoted where
  | text
  | character
  | bytes
  | byte
  deriving Repr, DecidableEq

/-- The escapes that are one character after the backslash. -/
def simpleEscapes : List Char :=
  ['\'', '"', '\\', 'n', 'r', 't', '0']

/-- The byte written by two hexadecimal digits, and what follows it. -/
def hexByte? : List Char → Option (Nat × List Char)
  | high :: low :: rest => do
      let high ← digit? high
      let low ← digit? low
      some (high * 16 + low, rest)
  | _ =>
      none

/-- Whether bytes are the encoding of a character. -/
def isCharacter
    (bytes : List Nat) :
    Bool :=
  (String.fromUTF8? ⟨(bytes.map Nat.toUInt8).toArray⟩).isSome

/--
What follows the bytes of a character, each an escape, of which the given
ones have been read and at most `missing` are to come.
-/
def afterEncoded?
    (bytes : List Nat) :
    Nat → List Char → Option (List Char)
  | missing, chars =>
      if isCharacter bytes then
        some chars
      else
        match missing, chars with
        | missing + 1, '\\' :: 'x' :: rest => do
            let (byte, rest) ← hexByte? rest
            afterEncoded? (bytes ++ [byte]) missing rest
        | _, _ =>
            none

/-- What follows the number of a code point, after its opening brace. -/
def afterCodePoint?
    (chars : List Char) :
    Option (List Char) := do
  let digits := chars.takeWhile fun char => char ≠ '\x7d'
  let point ← digits.foldlM
    (fun number char =>
      (digit? char).map fun digit => number * 16 + digit) 0
  if 1 ≤ digits.length && digits.length ≤ 6 && Nat.isValidChar point then
    match chars.drop digits.length with
    | _ :: rest =>
        some rest
    | [] =>
        none
  else
    none

/-- What follows an escape whose backslash has been read. -/
def afterEscape?
    (quoted : Quoted) :
    List Char → Option (List Char)
  | 'x' :: rest => do
      let (byte, rest) ← hexByte? rest
      match quoted with
      | .text =>
          afterEncoded? [byte] 3 rest
      | .character =>
          if byte < 0x80 then some rest else none
      | _ =>
          some rest
  | 'u' :: '\x7b' :: rest =>
      if quoted = .byte then none else afterCodePoint? rest
  | char :: rest =>
      if simpleEscapes.contains char then some rest else none
  | [] =>
      none

/-- What follows a text that ends with a double quote, by fuel. -/
def afterEscapedText?
    (quoted : Quoted) :
    Nat → List Char → Option (List Char)
  | _, '"' :: rest =>
      some rest
  | fuel + 1, '\\' :: rest =>
      (afterEscape? quoted rest).bind (afterEscapedText? quoted fuel)
  | fuel + 1, _ :: rest =>
      afterEscapedText? quoted fuel rest
  | _, _ =>
      none

/-- What follows the first occurrence of `closing`. -/
def afterClosing?
    (closing : List Char) :
    List Char → Option (List Char)
  | [] =>
      none
  | char :: rest =>
      match Text.stripPattern? closing (char :: rest) with
      | some after =>
          some after
      | none =>
          afterClosing? closing rest

/-- What follows a raw text whose letters have been read. -/
def afterRawText?
    (chars : List Char) :
    Option (List Char) :=
  let marks := chars.takeWhile fun char => char = '#'
  match chars.drop marks.length with
  | '"' :: body =>
      afterClosing? ('"' :: marks) body
  | _ =>
      none

/-- What follows a text. -/
def afterText? : List Char → Option (List Char)
  | '"' :: rest =>
      afterEscapedText? .text rest.length rest
  | 'r' :: rest =>
      afterRawText? rest
  | _ =>
      none

/-- What follows a string of bytes. -/
def afterBytes? : List Char → Option (List Char)
  | 'b' :: '"' :: rest =>
      afterEscapedText? .bytes rest.length rest
  | 'b' :: 'r' :: rest =>
      afterRawText? rest
  | _ =>
      none

/-- What follows the single quote behind one character. -/
def afterSingle?
    (quoted : Quoted)
    (chars : List Char) :
    Option (List Char) := do
  let rest ←
    match chars with
    | '\\' :: rest =>
        afterEscape? quoted rest
    | char :: rest =>
        if quoted = .byte && 0x80 ≤ char.toNat then none else some rest
    | [] =>
        none
  match rest with
  | '\'' :: rest =>
      some rest
  | _ =>
      none

/-- What follows a character in single quotes. -/
def afterCharacter? : List Char → Option (List Char)
  | '\'' :: rest =>
      afterSingle? .character rest
  | _ =>
      none

/-- What follows a byte in single quotes. -/
def afterByte? : List Char → Option (List Char)
  | 'b' :: '\'' :: rest =>
      afterSingle? .byte rest
  | _ =>
      none

end Term

end Mockup
