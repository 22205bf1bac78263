import SqlDialect.Zone.Data.America
import SqlDialect.Zone.Data.Asia
import SqlDialect.Zone.Data.Elsewhere
import SqlDialect.Zone.Data.Europe
import SqlDialect.Zone.Data.Oceania
import SqlDialect.Zone.Lookup

/-!
# An excerpt of the zone data

Zones to run with: a choice of places whose clocks behave in different ways, with their whole
histories. Nothing that holds of all lookups depends on the choice.
-/

namespace SqlDialect.Zone

/-- The keys of the excerpt, with their zones. -/
def excerptData : List (String × Zone) :=
  [("UTC", fixed 0),
   ("Etc/UTC", fixed 0),
   ("GMT", fixed 0),
   ("GMT+0", fixed 0),
   ("Etc/GMT+5", fixed (west 18000)),
   ("Etc/GMT-14", fixed 50400),
   ("Asia/Shanghai", Data.shanghai),
   ("Asia/Kolkata", Data.kolkata),
   ("Asia/Calcutta", Data.kolkata),
   ("Asia/Kathmandu", Data.kathmandu),
   ("Asia/Tokyo", Data.tokyo),
   ("Asia/Tehran", Data.tehran),
   ("Asia/Kabul", Data.kabul),
   ("Asia/Pyongyang", Data.pyongyang),
   ("America/New_York", Data.newYork),
   ("America/St_Johns", Data.stJohns),
   ("America/Sao_Paulo", Data.saoPaulo),
   ("America/Los_Angeles", Data.losAngeles),
   ("US/Pacific", Data.losAngeles),
   ("America/Caracas", Data.caracas),
   ("Europe/Berlin", Data.berlin),
   ("Europe/London", Data.london),
   ("Europe/Dublin", Data.dublin),
   ("Europe/Moscow", Data.moscow),
   ("Africa/Casablanca", Data.casablanca),
   ("Africa/Monrovia", Data.monrovia),
   ("Australia/Lord_Howe", Data.lordHowe),
   ("Pacific/Chatham", Data.chatham),
   ("Pacific/Apia", Data.apia),
   ("Pacific/Kiritimati", Data.kiritimati),
   ("Pacific/Marquesas", Data.marquesas),
   ("Antarctica/Troll", Data.troll),
   ("EST", Data.est),
   ("EST5EDT", Data.est5edt),
   ("Factory", fixed 0)]

/-- The lookup in the excerpt. -/
def excerpt : Lookup :=
  .ofData fun key => (excerptData.find? fun entry => entry.1 = key).map (·.2)

end SqlDialect.Zone
