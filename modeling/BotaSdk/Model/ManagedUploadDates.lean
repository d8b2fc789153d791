import BotaSdk.Lib.Ascii
import BotaSdk.Lib.Checked
import BotaSdk.Lib.Timestamp
import BotaSdk.Model.ManagedUpload

/-!
# Dates of managed uploads (`model/managed_upload.rs`)

`date` reads a timestamp into the milliseconds since 1970 and `iso_date` writes one.  A slice outside
of its text or within a character panics, and so does arithmetic outside of `i64`.
-/

namespace BotaSdk

open Byo

namespace ManagedUpload

inductive DateFault where
  | error (error : ManagedUploadError)
  | panicked
  deriving DecidableEq

abbrev Dated (α : Type) := Except DateFault α

/-! ## Reading -/

def invalid : DateFault :=
  .error .invalidDocument

def isCharBoundary (v : List UInt8) (i : Nat) : Bool :=
  match v[i]? with
  | some c => c < 128 || 192 ≤ c
  | none => i = v.length

/-- `&v[from..to]`. -/
def slice (v : List UInt8) (a b : Nat) : Dated (List UInt8) :=
  if a ≤ b ∧ isCharBoundary v a ∧ isCharBoundary v b then pure ((v.drop a).take (b - a))
  else throw .panicked

/-- A result of `i64` arithmetic. -/
def i64 (n : Int) : Dated Int :=
  if -9223372036854775808 ≤ n ∧ n ≤ 9223372036854775807 then pure n else throw .panicked

def number (s : List UInt8) : Dated Int :=
  match s, Byo.decimal s with
  | [], _ => throw invalid
  | _, none => throw invalid
  | _, some n => if n ≤ 9223372036854775807 then pure n else throw invalid

/-- A separator that stands at a place of the text. -/
def separator (v : List UInt8) (i : Nat) (c : UInt8) : Dated Unit := do
  if (← slice v i (i + 1)) ≠ [c] then throw invalid

structure CivilFields where
  y : Int
  m : Int
  d : Int
  hour : Int
  minute : Int
  second : Int

def civilFields (v : List UInt8) : Dated CivilFields := do
  separator v 4 45
  separator v 7 45
  separator v 10 84
  separator v 13 58
  separator v 16 58
  let y ← number (← slice v 0 4)
  let m ← number (← slice v 5 7)
  let d ← number (← slice v 8 10)
  let hour ← number (← slice v 11 13)
  let minute ← number (← slice v 14 16)
  let second ← number (← slice v 17 19)
  pure { y, m, d, hour, minute, second }

/-- `days[(m - 1) as usize]`. -/
def monthDays (y m : Int) : Dated Int :=
  let leap := y % 4 = 0 ∧ (y % 100 ≠ 0 ∨ y % 400 = 0)
  match [31, if leap then 29 else 28, 31, 30, 31, 30, 31, 31, 30, 31, 30, 31][(m - 1).toNat]? with
  | some days => pure days
  | none => throw .panicked

def checkFields (fields : CivilFields) : Dated Unit := do
  if ¬(1 ≤ fields.m ∧ fields.m ≤ 12) then throw invalid
  if fields.d < 1 then throw invalid
  if fields.d > (← monthDays fields.y fields.m) then throw invalid
  if fields.hour > 23 ∨ fields.minute > 59 ∨ fields.second > 59 then throw invalid

/-- The milliseconds of a fraction whose point is read, and the text after it. -/
def fractionPart (part : List UInt8) : Dated (Int × List UInt8) := do
  let len := (part.takeWhile isAsciiDigit).length
  if len = 0 then throw invalid
  let frac ← slice part 0 len
  let first ← slice frac 0 (min frac.length 3)
  let ms ← number first
  pure (ms * 10 ^ (3 - first.length), ← slice part len part.length)

def fraction (tail : List UInt8) : Dated (Int × List UInt8) :=
  match tail with
  | 46 :: part => fractionPart part
  | _ => pure (0, tail)

/-- The minutes of an offset with a sign. -/
def signedOffset (tail : List UInt8) : Dated Int := do
  if tail.length ≠ 6 then throw invalid
  let sign ← slice tail 0 1
  if sign ≠ [43] ∧ sign ≠ [45] then throw invalid
  separator tail 3 58
  let h ← number (← slice tail 1 3)
  let min ← number (← slice tail 4 6)
  if h > 23 ∨ min > 59 then throw invalid
  pure ((h * 60 + min) * if tail.head? = some 45 then -1 else 1)

def offset (tail : List UInt8) : Dated Int :=
  if tail = [90] then pure 0 else signedOffset tail

/-- The days since the epoch; only the era is a division of a possibly negative number. -/
def epochDay (y m d : Int) : Dated Int :=
  let year := y - if m ≤ 2 then 1 else 0
  let era := year / 400
  let yo := year - era * 400
  let mp := m + if m > 2 then -3 else 9
  i64 (era * 146097 + yo * 365 + yo / 4 - yo / 100 + (153 * mp + 2) / 5 + d - 1 - 719468)

/-- The milliseconds since the epoch. -/
def epochMillis (day : Int) (fields : CivilFields) (offset ms : Int) : Dated Int :=
  i64 ((day * 86400 + fields.hour * 3600 + fields.minute * 60 + fields.second - offset * 60) *
    1000 + ms)

def date (v : String) : Dated Nat := do
  let v := asBytes v
  if v.length < 20 then throw invalid
  if ¬v.all (· < 128) then throw invalid
  let fields ← civilFields v
  checkFields fields
  let (ms, tail) ← fraction (← slice v 19 v.length)
  let offset ← offset tail
  let day ← epochDay fields.y fields.m fields.d
  let result ← epochMillis day fields offset ms
  if result < 0 then throw invalid
  pure result.toNat

/-! ## Writing -/

/-- The year, the month and the day of a count of days since the epoch. -/
def civilDate (days : Nat) : Int × Int × Int :=
  let z : Int := days + 719468
  let era := z / 146097
  let doe := z - era * 146097
  let yo := (doe - doe / 1460 + doe / 36524 - doe / 146096) / 365
  let y := yo + era * 400
  let day := doe - (365 * yo + yo / 4 - yo / 100)
  let mp := (5 * day + 2) / 153
  let d := day - (153 * mp + 2) / 5 + 1
  let m := mp + if mp < 10 then 3 else -9
  (y + if m ≤ 2 then 1 else 0, m, d)

/-- `iso_date`, whose numbers are never negative. -/
def isoDate (ms : Nat) : String :=
  let (y, m, d) := civilDate (ms / 86400000)
  let seconds := ms / 1000 % 86400
  Ascii.text (Decimal.pad 4 y.toNat ++ 45 :: (Decimal.pad 2 m.toNat ++ 45 ::
    (Decimal.pad 2 d.toNat ++ 84 :: (Decimal.pad 2 (seconds / 3600) ++ 58 ::
      (Decimal.pad 2 (seconds / 60 % 60) ++ 58 :: (Decimal.pad 2 (seconds % 60) ++ 46 ::
        (Decimal.pad 3 (ms % 1000) ++ [90])))))))

end ManagedUpload

end BotaSdk
