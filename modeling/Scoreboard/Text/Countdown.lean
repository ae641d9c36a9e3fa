import Scoreboard.Text.Digits

/-! The countdown to the end of a tick. -/

namespace Scoreboard

/-- A number of seconds as minutes and seconds of two digits at least, nothing below zero. -/
def countdownText (seconds : Int64) : List Char :=
  let left := seconds.toInt.toNat
  padZeros 2 (natDigits (left / 60)) ++ ':' :: padZeros 2 (natDigits (left % 60))

end Scoreboard
