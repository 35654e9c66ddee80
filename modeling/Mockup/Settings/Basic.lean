namespace Mockup

/-!
# Settings

The numbers that tune a session, independent of the application it runs.
-/

/-- How a session is tuned. -/
structure Settings where
  /-- How many pages the stack holds when the application sets no limit. -/
  stackCapacity : Nat := 50
  /-- How long a toast stays unless it says otherwise, in milliseconds. -/
  toastDuration : Nat := 2000
  /-- How long a delay lasts unless it says otherwise, in milliseconds. -/
  delayDuration : Nat := 1000
  /-- The greatest depth at which an action is carried out. -/
  cascadeLimit : Nat := 32
  deriving Repr, DecidableEq

namespace Settings

/-- The settings with room for at least one page. -/
def clamped
    (settings : Settings) :
    Settings :=
  { settings with stackCapacity := max settings.stackCapacity 1 }

end Settings

end Mockup
