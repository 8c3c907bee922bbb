/-!
# The limit on digits

Integers have any size, but between an integer and its decimal text there is a limit on the number
of digits, since the time a conversion takes grows faster than its length.
-/

namespace BraceScript.Number

/-- The most digits that a conversion between an integer and its text may have. -/
def digitLimit : Nat := 4300

/-- Whether an integer has more digits than may be written. -/
def exceedsLimit (n : Int) : Bool := Nat.pow 10 digitLimit ≤ n.natAbs

/-- The wording for an integer with too many digits to be written. -/
def tooLongToWrite : String :=
  "Exceeds the limit (4300 digits) for integer string conversion; "
    ++ "use sys.set_int_max_str_digits() to increase the limit"

/-- The wording for a text with too many digits to be read. -/
def tooLongToRead (digits : Nat) : String :=
  "Exceeds the limit (4300 digits) for integer string conversion: value has " ++ toString digits
    ++ " digits; use sys.set_int_max_str_digits() to increase the limit"

end BraceScript.Number
