/-
# Moments in a configuration

A moment is a date, a time of day, or a date and a time with or without an offset.  The year has
four digits and every other part two, and each part has to be in its range.
-/

import RecordRegistry.Toml.Number

namespace RecordRegistry.Toml

/-- The number of days of a month. -/
def daysOfMonth (year month : Nat) : Nat :=
  let isLeap := year % 4 = 0 && (year % 100 != 0 || year % 400 = 0)
  if month = 2 then (if isLeap then 29 else 28)
  else if month = 4 || month = 6 || month = 9 || month = 11 then 30
  else 31

namespace Reader

/-- Exactly the given number of digits. -/
def fixedDigits (count : Nat) : Reader Nat := do
  let start := (← get).offset
  let read ← takeUpTo count isDecimalDigit
  if read.length < count then failAt start none else return numberOf 10 read

/-- Two digits whose number lies in a range. -/
def twoDigits (least most : Nat) : Reader Nat := refined (fixedDigits 2) fun value =>
  if least ≤ value && value ≤ most then .ok value else .error .outOfRange

/-- A date. -/
def date : Reader Unit := do
  let year ← fixedDigits 4
  require ['-']
  committed do
    let month ← twoDigits 1 12
    require ['-']
    let start := (← get).offset
    let day ← twoDigits 1 31
    if daysOfMonth year month < day then failAt start (some .outOfRange)

/-- A part of a second. -/
def partOfSecond : Reader Unit := do
  require ['.']
  discard (oneOf isDecimalDigit)
  discard (takeWhile isDecimalDigit)

/-- A time of day. -/
def timeOfDay : Reader Unit := do
  discard (twoDigits 0 23)
  require [':']
  committed do
    discard (twoDigits 0 59)
    require [':']
    discard (twoDigits 0 60)
    discard (optional? partOfSecond)

/-- How far a time is from universal time. -/
def timeOffset : Reader Unit := named .timeOffset do
  match ← oneOf? fun character => character == 'Z' || character == 'z' with
  | some _ => return
  | none =>
    discard (oneOf isSign)
    committed do
      discard (twoDigits 0 23)
      require [':']
      discard (twoDigits 0 59)

/-- A time of day after a date. -/
def timeAfterDate : Reader Unit := do
  discard (oneOf fun character => character == 'T' || character == 't' || character == ' ')
  timeOfDay
  discard (optional? timeOffset)

/-- A moment. -/
def moment : Reader Unit :=
  either
    (named .dateTime do
      date
      discard (optional? timeAfterDate))
    (named .time timeOfDay)

end Reader

end RecordRegistry.Toml
