import UriEndpoint.Text.Basic

/-!
# Log levels

The five levels in ascending order. A threshold is named in any letter case; a name that is no level
stands for the second level.
-/

namespace UriEndpoint

/-- How grave a log record is. -/
inductive Level where
  | debug
  | info
  | warning
  | error
  | critical
deriving DecidableEq, Repr

namespace Level

/-- The place of a level in the order. -/
def rank : Level → Nat
  | debug => 10
  | info => 20
  | warning => 30
  | error => 40
  | critical => 50

/-- All levels in ascending order. -/
def all : List Level := [debug, info, warning, error, critical]

/-- The name of a level in records. -/
def name : Level → Text
  | debug => "debug".toList
  | info => "info".toList
  | warning => "warning".toList
  | error => "error".toList
  | critical => "critical".toList

/-- The name of a level in settings. -/
def settingName : Level → Text
  | debug => "DEBUG".toList
  | info => "INFO".toList
  | warning => "WARNING".toList
  | error => "ERROR".toList
  | critical => "CRITICAL".toList

/-- The upper-case form of a letter where that is a single basic Latin letter: those of the basic
Latin small letters, of the dotless i and of the long s. -/
def raised (letter : Char) : Char :=
  if 'a' ≤ letter ∧ letter ≤ 'z' then Char.ofNat (letter.toNat - 0x20)
  else if letter.toNat = 0x131 then 'I'
  else if letter.toNat = 0x17F then 'S'
  else letter

/-- The level that a name stands for in any letter case. -/
def ofName? (name : Text) : Option Level :=
  all.find? fun level => level.settingName == name.map raised

/-- The threshold that a name stands for. -/
def threshold (name : Text) : Level := (ofName? name).getD info

end Level

end UriEndpoint
