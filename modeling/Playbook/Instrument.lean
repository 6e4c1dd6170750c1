import Playbook.Text

/-!
# Playbook.Instrument

The futures contracts that strategies trade, and their economics.

Every product comes as a full-size contract and as a micro contract.  A tick is
the smallest step of a price; a point is one unit of the quoted price.
-/

namespace Playbook

/-! ## Contracts -/

/-- The symbols of the contracts, in the order in which they are listed. -/
inductive Symbol where
  | es
  | mes
  | nq
  | mnq
  | ym
  | mym
  | rty
  | m2k
  | cl
  | mcl
  | gc
  | mgc
deriving DecidableEq

/-- What kind of market a contract belongs to. -/
inductive AssetClass where
  | equityIndex
  | energy
  | metals
deriving DecidableEq

/-- Whether a contract is the large or the small one of its product. -/
inductive ContractSize where
  | full
  | micro
deriving DecidableEq

/-- The economics of a contract.  Values are in dollars. -/
structure Contract where
  symbol : Symbol
  description : String
  exchange : String
  assetClass : AssetClass
  size : ContractSize
  tickSize : Float
  tickValue : Float
  pointValue : Float
  /-- The contract of the other size of the same product. -/
  paired : Symbol
deriving DecidableEq

namespace Symbol

/-- All symbols. -/
def all : List Symbol := [.es, .mes, .nq, .mnq, .ym, .mym, .rty, .m2k, .cl, .mcl, .gc, .mgc]

/-- The written form of a symbol. -/
def text : Symbol → String
  | .es => "ES"
  | .mes => "MES"
  | .nq => "NQ"
  | .mnq => "MNQ"
  | .ym => "YM"
  | .mym => "MYM"
  | .rty => "RTY"
  | .m2k => "M2K"
  | .cl => "CL"
  | .mcl => "MCL"
  | .gc => "GC"
  | .mgc => "MGC"

/-- The contract with a symbol. -/
def contract : Symbol → Contract
  | .es =>
    ⟨.es, "E-mini S&P 500", "CME", .equityIndex, .full, 0.25, 12.5, 50.0, .mes⟩
  | .mes =>
    ⟨.mes, "Micro E-mini S&P 500", "CME", .equityIndex, .micro, 0.25, 1.25, 5.0, .es⟩
  | .nq =>
    ⟨.nq, "E-mini Nasdaq-100", "CME", .equityIndex, .full, 0.25, 5.0, 20.0, .mnq⟩
  | .mnq =>
    ⟨.mnq, "Micro E-mini Nasdaq-100", "CME", .equityIndex, .micro, 0.25, 0.5, 2.0, .nq⟩
  | .ym =>
    ⟨.ym, "E-mini Dow", "CBOT", .equityIndex, .full, 1.0, 5.0, 5.0, .mym⟩
  | .mym =>
    ⟨.mym, "Micro E-mini Dow", "CBOT", .equityIndex, .micro, 1.0, 0.5, 0.5, .ym⟩
  | .rty =>
    ⟨.rty, "E-mini Russell 2000", "CME", .equityIndex, .full, 0.1, 5.0, 50.0, .m2k⟩
  | .m2k =>
    ⟨.m2k, "Micro E-mini Russell 2000", "CME", .equityIndex, .micro, 0.1, 0.5, 5.0, .rty⟩
  | .cl =>
    ⟨.cl, "Crude Oil", "NYMEX", .energy, .full, 0.01, 10.0, 1000.0, .mcl⟩
  | .mcl =>
    ⟨.mcl, "Micro Crude Oil", "NYMEX", .energy, .micro, 0.01, 1.0, 100.0, .cl⟩
  | .gc =>
    ⟨.gc, "Gold", "COMEX", .metals, .full, 0.1, 10.0, 100.0, .mgc⟩
  | .mgc =>
    ⟨.mgc, "Micro Gold", "COMEX", .metals, .micro, 0.1, 1.0, 10.0, .gc⟩

/-- The symbol that a text names, in any letter case and with blanks around it. -/
def ofText? (s : String) : Option Symbol :=
  all.find? fun x => Text.sameFolded x.text.toList (Text.trim s.toList)

/-- The micro contract of the same product. -/
def micro (s : Symbol) : Symbol := if s.contract.size = .micro then s else s.contract.paired

/-- The full-size contract of the same product. -/
def full (s : Symbol) : Symbol := if s.contract.size = .full then s else s.contract.paired

end Symbol

namespace Contract

/-! ## Prices and dollars -/

/-- How many ticks a price distance spans. -/
def ticksOf (c : Contract) (distance : Float) : Float := distance.abs / c.tickSize

/-- The price distance of a number of ticks. -/
def tickDistance (c : Contract) (ticks : Float) : Float := ticks * c.tickSize

/-- What a number of ticks is worth, for one contract. -/
def tickDollars (c : Contract) (ticks : Float) : Float := ticks * c.tickValue

/-- What a price distance is worth, for one contract. -/
def distanceDollars (c : Contract) (distance : Float) : Float := c.tickDollars (c.ticksOf distance)

end Contract

/-! ## Distances -/

/-- The units of a price distance. -/
inductive DistanceUnit where
  | ticks
  | points
deriving DecidableEq

/-- A fixed price distance. -/
structure Distance where
  value : Float
  unit : DistanceUnit
deriving BEq

/-- A distance in units of price.  Points are units of price already. -/
def Distance.price (d : Distance) (c : Contract) : Float :=
  match d.unit with
  | .ticks => c.tickDistance d.value
  | .points => d.value

end Playbook
