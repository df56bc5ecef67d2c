import PathTemplate.Toml.Text

/-!
# Dates and times

A moment is a date, a time of day, or both, and then it may have an offset from universal time.  It
has to exist in the calendar; the second 60 is accepted as a leap second.
-/

namespace PathTemplate.Toml

def fixedNumber (count : Nat) : Reader Nat := do
  let digits ← (List.range count).mapM fun _ => Reader.satisfy Char.isDigit
  return numeral 10 digits

def isLeapYear (year : Nat) : Bool :=
  year % 4 == 0 && (year % 100 != 0 || year % 400 == 0)

def daysInMonth (year month : Nat) : Nat :=
  if month = 2 then (if isLeapYear year then 29 else 28)
  else if month ∈ [4, 6, 9, 11] then 30
  else 31

def date : Reader Unit := do
  let year ← fixedNumber 4
  Reader.char '-'
  let month ← fixedNumber 2
  Reader.char '-'
  let day ← fixedNumber 2
  guard (1 ≤ month ∧ month ≤ 12)
  guard (1 ≤ day ∧ day ≤ daysInMonth year month)

def hourMinute : Reader Unit := do
  let hour ← fixedNumber 2
  Reader.char ':'
  let minute ← fixedNumber 2
  guard (hour ≤ 23 ∧ minute ≤ 59)

def secondFraction : Reader Unit := do
  Reader.char '.'
  let _ ← Reader.takeWhile1 Char.isDigit

def time : Reader Unit := do
  hourMinute
  Reader.char ':'
  let second ← fixedNumber 2
  guard (second ≤ 60)
  secondFraction <|> pure ()

def isOneOf (choices : List Char) (c : Char) : Bool :=
  choices.contains c

def offset : Reader Unit := do
  if (← Reader.satisfy (isOneOf ['Z', 'z', '+', '-'])) ∈ ['+', '-'] then
    hourMinute

def dateTime : Reader Unit := do
  date
  (do
    let _ ← Reader.satisfy (isOneOf ['T', 't', ' '])
    time
    offset <|> pure ()) <|> pure ()

def moment : Reader Unit :=
  dateTime <|> time

end PathTemplate.Toml
