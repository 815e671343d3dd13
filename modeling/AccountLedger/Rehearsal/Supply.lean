import AccountLedger.Timestamp
import AccountLedger.Transaction.Record
import AccountLedger.Uuid

/-!
Times, ids and reference suffixes for a rehearsal: none of them comes twice.
-/

namespace AccountLedger.Rehearsal

/-- What the next reading of the clock and the next draws start from. -/
structure Supply where
  wall : Timestamp
  nextId : Nat
  nextSuffix : Nat
  deriving DecidableEq, Repr

namespace Supply

/-- The wall clock at the start. -/
def startTime : Timestamp := ⟨1782864000, 0⟩

def idBase : Nat := 0xA1B2C3D400004000A000000000000000

def start : Supply := ⟨startTime, 1, 1⟩

/-- The wall clock moves a little at every reading. -/
def takeTime (supply : Supply) : Timestamp × Supply :=
  let wall := supply.wall.addNanos 1000
  (wall, { supply with wall })

def takeId (supply : Supply) : Uuid × Supply :=
  (Uuid.ofNat (idBase + supply.nextId), { supply with nextId := supply.nextId + 1 })

def takeSuffix (supply : Supply) : ReferenceSuffix × Supply :=
  (ReferenceSuffix.ofNat supply.nextSuffix, { supply with nextSuffix := supply.nextSuffix + 1 })

end Supply

end AccountLedger.Rehearsal
