/-
# Where pages are saved

A saved page lands in `root/YYYY-MM/DD/session/file`. The session folder keeps together what is
generated together; without a session the folder is the number after the highest one of the day. The
largest number has no number after it: whoever asks for one breaks off (`OutputError.overflow`).

Key definitions: `Date`, `Output.nextPath`, `Output.nextNumber`, `Output.saveImage`,
`resolveSession`, `OutputError`.
-/
import MangaPress.Base64
import MangaPress.Files.Tree
import MangaPress.Image
import MangaPress.Text.Blank

namespace MangaPress

/-- A day of the calendar. -/
structure Date where
  year : Int
  month : Nat
  day : Nat
deriving Repr, DecidableEq, Inhabited

namespace Date

/-- A year with a twenty-ninth of February. -/
def isLeapYear (year : Int) : Bool :=
  decide (Int.emod year 4 = 0) &&
    (!decide (Int.emod year 100 = 0) || decide (Int.emod year 400 = 0))

/-- The number of days in a month; none for a month that does not exist. -/
def daysInMonth (year : Int) (month : Nat) : Nat :=
  match month with
  | 1 | 3 | 5 | 7 | 8 | 10 | 12 => 31
  | 4 | 6 | 9 | 11 => 30
  | 2 => if isLeapYear year then 29 else 28
  | _ => 0

/-- The first year of the calendar. -/
def firstYear : Int := -262143

/-- The last year of the calendar. -/
def lastYear : Int := 262142

/-- The day, if there is one. -/
def of? (year : Int) (month day : Nat) : Option Date :=
  if firstYear ≤ year ∧ year ≤ lastYear ∧ 1 ≤ day ∧ day ≤ daysInMonth year month then
    some { year, month, day }
  else none

/-- The year with at least four digits, and with a sign where it has not exactly four. -/
def yearText (d : Date) : Text :=
  if 0 ≤ d.year ∧ d.year ≤ 9999 then Text.ofNatPadded 4 d.year.toNat
  else if 0 ≤ d.year then '+' :: Text.ofNat d.year.toNat
  else '-' :: Text.ofNatPadded 4 (-d.year).toNat

/-- The folder of the month. -/
def monthFolder (d : Date) : Text :=
  d.yearText ++ '-' :: Text.ofNatPadded 2 d.month

/-- The folder of the day in that of the month. -/
def dayFolder (d : Date) : Text :=
  Text.ofNatPadded 2 d.day

end Date

/-- Why a page cannot be saved. -/
inductive OutputError where
  | list (folder : Path) (e : FileError)
  | createFolder (folder : Path) (e : FileError)
  | notBase64
  | write (path : Path) (e : FileError)
  /-- There is no number after the highest one. This is not reported as the others are: the
  computation that asks for the number ends there and has no result. -/
  | overflow
deriving Repr, DecidableEq

/-- What was being done. -/
def OutputError.task : OutputError → Text
  | list folder _ => "Failed to read " ++ folder
  | createFolder folder _ => "Failed to create output folder " ++ folder
  | notBase64 => "Generated image data is not valid base64"
  | write path _ => "Failed to write " ++ path
  | overflow => "attempt to add with overflow"

/-- What went wrong with the files. -/
def OutputError.cause? : OutputError → Option FileError
  | list _ e | createFolder _ e | write _ e => some e
  | notBase64 | overflow => none

/-- The wording of the error: what was being done, and what went wrong. -/
def OutputError.message (e : OutputError) : Text :=
  match e.cause? with
  | some cause => e.task ++ ": " ++ cause.message
  | none => e.task

/-- The session that a user names, or else the one of the environment, without white space at its
ends; a blank one is none. -/
def resolveSession (explicit environment : Option Text) : Option Text :=
  ((explicit.or environment).map Text.trim).filter fun t => !t.isEmpty

namespace Output

/-- The largest number that a session folder is numbered with. -/
def maxNumber : Nat := Text.maxWord64

/-- The number that a folder name is, if it is one: decimal digits, and not too large. -/
def folderNumber? (name : Text) : Option Nat :=
  if !name.isEmpty && name.all Text.isDigit then
    (Text.toNat? name).filter (· ≤ maxNumber)
  else none

/-- The highest number among folder names, and 0 if there is none. -/
def highestNumber (names : List Text) : Nat :=
  (names.filterMap folderNumber?).foldl max 0

/-- The number after the highest one among folder names, unless that one is the largest. -/
def numberAfter? (names : List Text) : Option Nat :=
  if highestNumber names < maxNumber then some (highestNumber names + 1) else none

/-- The number of the next session folder of a day. -/
def nextNumber (files : FileTree) (dayPath : Path) : Except OutputError Nat :=
  match files.directoryNames dayPath with
  | .ok names =>
    match numberAfter? names with
    | some n => .ok n
    | none => .error .overflow
  | .error .notFound => .ok 1
  | .error e => .error (.list dayPath e)

/-- The folder of a day. -/
def dayPath (root : Path) (date : Date) : Path :=
  Path.join (Path.join root date.monthFolder) date.dayFolder

/-- The session folder of a page that is to be saved. -/
def sessionPath (files : FileTree) (root : Path) (session : Option Text) (date : Date) :
    Except OutputError Path :=
  let day := dayPath root date
  match session with
  | some session => .ok (Path.join day session)
  | none => (nextNumber files day).map fun n => Path.join day (Text.ofNat n)

/-- Creates the session folder of a page that is to be saved, and gives the page's path. -/
def nextPath (files : FileTree) (root : Path) (fileName : Text) (session : Option Text)
    (date : Date) : FileTree × Except OutputError Path :=
  match sessionPath files root session date with
  | .error e => (files, .error e)
  | .ok folder =>
    match files.createDirectories folder with
    | (files, .error e) => (files, .error (.createFolder folder e))
    | (files, .ok _) => (files, .ok (Path.join folder fileName))

/-- Writes the bytes of an image to a path. -/
def saveImage (files : FileTree) (image : Image) (path : Path) (room : Room := .ample) :
    FileTree × Except OutputError Unit :=
  match Base64.decode? image.data with
  | none => (files, .error .notBase64)
  | some bytes =>
    let (files, written) := files.write path bytes room
    (files, written.mapError (.write path))

/-- Saves an image to the next path, and gives that path. -/
def save (files : FileTree) (root : Path) (fileName : Text) (session : Option Text) (date : Date)
    (image : Image) (room : Room := .ample) : FileTree × Except OutputError Path :=
  match nextPath files root fileName session date with
  | (files, .error e) => (files, .error e)
  | (files, .ok path) =>
    let (files, saved) := saveImage files image path room
    (files, saved.map fun _ => path)

end Output

end MangaPress
