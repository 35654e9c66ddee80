import Mockup.Computed.Registry
import Mockup.Text.Upper

namespace Mockup

namespace Computed

/-!
# Amounts of money

An amount is written with the symbol of its currency and a fixed number of
decimals, its whole part in groups of three digits.
-/

/-- A currency as it is written: a symbol, and digits after the point. -/
structure CurrencyStyle where
  symbol : String
  decimals : Nat
  deriving Repr, DecidableEq

/-- The style of a currency code; an unknown code is its own symbol. -/
def currencyStyle
    (code : String) :
    CurrencyStyle :=
  if code = "CNY" then ⟨"¥", 2⟩
  else if code = "USD" then ⟨"US$", 2⟩
  else if code = "EUR" then ⟨"€", 2⟩
  else if code = "GBP" then ⟨"£", 2⟩
  else if code = "HKD" then ⟨"HK$", 2⟩
  else if code = "JPY" then ⟨"JP¥", 0⟩
  else ⟨code ++ " ", 2⟩

/-- Digits with a comma in front of every third one from the right. -/
def grouped : List Char → List Char
  | [] =>
      []
  | digit :: rest =>
      if !rest.isEmpty && rest.length % 3 = 0 then
        digit :: ',' :: grouped rest
      else
        digit :: grouped rest

/-- Whether a text has a digit other than zero. -/
def hasNonzeroDigit
    (chars : List Char) :
    Bool :=
  chars.any fun char => char.isDigit && char != '0'

/-- A fixed text with its whole part in groups. -/
def groupedAmount
    (fixed : List Char) :
    List Char :=
  let (whole, fraction) := fixed.span (· != '.')
  grouped whole ++ fraction

/-- An amount in a style; an amount that rounds to zero has no sign. -/
def currencyText
    (style : CurrencyStyle)
    (amount : Double) :
    String :=
  let fixed := amount.fixedMagnitude style.decimals
  let sign :=
    if amount.belowZero && hasNonzeroDigit fixed then "-" else ""
  sign ++ style.symbol ++ String.ofList (groupedAmount fixed)

/-- An amount and an optional currency code, in any case of letters. -/
def formatCurrency : ComputedFunction :=
  fun arguments =>
    match numberArgument "formatCurrency" arguments 0 with
    | .error error =>
        .error error
    | .ok amount =>
        let code :=
          String.ofList
            (Text.upper (textArgument arguments 1 "CNY").toList)
        .ok (.string (currencyText (currencyStyle code) amount))

end Computed

end Mockup
