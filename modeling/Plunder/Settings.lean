import Plunder.Options
import Plunder.Form.Scalar
import Plunder.Fault
import Plunder.Journal
import Plunder.Text.Lower

/-!
# Settings

The configuration of the client, fixed once it is made. Command-line options win over the
environment, the environment over the file of defaults, and that over the built-in values.

* `Settings.check`: settings out of fields of unknown shape
* `Settings.load`: settings out of an environment and overrides
* `Environment.withDefaults`: the environment filled up from the file of defaults
-/

namespace Plunder

/-! ## Truth values -/

def truthOf? (text : String) : Option Bool :=
  if ["1", "true", "yes", "on"].contains text then some true
  else if ["0", "false", "no", "off", ""].contains text then some false
  else none

/-- A truth value, or a value whose text stands for one, in any case and with blanks around. -/
def Value.toTruth : Value → Except Fault Bool
  | .bool b => .ok b
  | v => do
    let t ← v.inline
    match truthOf? (Text.lower (Text.trim t)) with
    | some b => return b
    | none =>
      let shown ← v.shown
      throw (.badValue ("not a boolean: " ++ shown))

/-! ## The environment -/

/-- The variables of the environment. -/
abbrev Environment := List (String × String)

namespace Environment

/-- The value of a variable. -/
def get? (env : Environment) (name : String) : Option String :=
  (env.find? (·.1 == name)).map (·.2)

def testVariable : String := "HAULLEDGER_TEST_MODE"

/-- Whether this is a test, in which the file of defaults is left alone. -/
def isTest (env : Environment) : Bool := env.get? testVariable == some "true"

/-- The environment with every variable of the file of defaults that it does not set. -/
def fillUp (env defaults : Environment) : Environment :=
  defaults.foldl (fun e d => if (e.get? d.1).isSome then e else e ++ [d]) env

/-- The environment with the file of defaults read, unless this is a test. -/
def withDefaults (env defaults : Environment) : Environment :=
  if env.isTest then env else env.fillUp defaults

end Environment

/-! ## The settings -/

/-- The configuration of the client. -/
structure Settings where
  contractAddress : String
  rpcUrl : String
  credential : String
  onchainChart : Bool
  ledgerOpen : Bool
  charterOpen : Bool
  charterUrl : String
  requestTimeout : Binary64

namespace Settings

def title : String := "LedgerConfig"

def truth (v : Value) : Form.Checked Bool :=
  match v.toTruth with
  | .ok b => .ok b
  | .error _ => .defect .refusedValue

def builtIn : Settings :=
  { contractAddress := "", rpcUrl := "http://localhost:8545", credential := "",
    onchainChart := false, ledgerOpen := true, charterOpen := true, charterUrl := "/charter",
    requestTimeout := .ofNat 30 }

/-- Settings out of the fields of a record. -/
def ofFields (fs : Fields) : Form.Checked Settings :=
  mk <$> Form.fieldOr fs "contract_address" builtIn.contractAddress Form.text
    <*> Form.fieldOr fs "rpc_url" builtIn.rpcUrl Form.text
    <*> Form.fieldOr fs "credential" builtIn.credential Form.text
    <*> Form.fieldOr fs "onchain_chart" builtIn.onchainChart truth
    <*> Form.fieldOr fs "ledger_open" builtIn.ledgerOpen truth
    <*> Form.fieldOr fs "charter_open" builtIn.charterOpen truth
    <*> Form.fieldOr fs "charter_url" builtIn.charterUrl Form.text
    <*> Form.fieldOr fs "request_timeout" builtIn.requestTimeout Form.positiveReal

def check (fs : Fields) : Except Form.Invalid Settings := Form.finish title (ofFields fs)

def hasCredential (s : Settings) : Bool := !(Text.trim s.credential).isEmpty

/-- All settings but the credential, as a record. -/
def openFields (s : Settings) : Fields :=
  [("contract_address", .text s.contractAddress), ("rpc_url", .text s.rpcUrl),
    ("onchain_chart", .bool s.onchainChart), ("ledger_open", .bool s.ledgerOpen),
    ("charter_open", .bool s.charterOpen), ("charter_url", .text s.charterUrl),
    ("request_timeout", .float s.requestTimeout)]

def describe (s : Settings) : String :=
  ", ".intercalate (s.openFields.map fun f => f.1 ++ "=" ++ (f.2.show?.getD ""))

/-- The variables of the environment and the settings that they are for. -/
def sources : List (String × String) :=
  [("HAULLEDGER_LEDGER__CONTRACT_ADDRESS", "contract_address"),
    ("HAULLEDGER_LEDGER__RPC_URL", "rpc_url"),
    ("HAULLEDGER_LEDGER__CREDENTIAL", "credential"),
    ("HAULLEDGER_LEDGER__OPEN", "ledger_open"),
    ("HAULLEDGER_LEDGER__TIMEOUT", "request_timeout"),
    ("HAULLEDGER_CHART__ONCHAIN", "onchain_chart"),
    ("HAULLEDGER_CHARTER__OPEN", "charter_open"),
    ("HAULLEDGER_CHARTER__URL", "charter_url")]

def fromEnvironment (env : Environment) : Fields :=
  sources.filterMap fun v => (env.get? v.1).map fun s => (v.2, .text s)

/-- What the overrides set; null sets nothing. -/
def setOverrides (overrides : Fields) : Fields :=
  overrides.filter fun f => match f.2 with
    | .null => false
    | _ => true

/-- Settings out of the environment, with overrides in front of it. -/
def load (overrides : Fields) (env : Environment) : Except Form.Invalid Settings :=
  check ((fromEnvironment env).merge (setOverrides overrides))

def note (s : Settings) : Note := .under .debug "ledger_config" s.openFields

/-! ## Options -/

/-- Whether a text is a number. -/
def isReal (s : String) : Bool := (Numeral.parseFloat? s).isSome

def anyText (_ : String) : Bool := true

def options : List Options.Opt :=
  [⟨"--ledger.contract_address", .value anyText⟩, ⟨"--ledger.rpc_url", .value anyText⟩,
    ⟨"--ledger.timeout", .value isReal⟩, ⟨"--chart.onchain", .flag⟩]

def textOrNull : Option String → Value
  | some s => .text s
  | none => .null

/-- What the options override; null where they do not. -/
def overridesOf (r : Options.Reading) : Fields :=
  [("contract_address", textOrNull (r.value? "--ledger.contract_address")),
    ("rpc_url", textOrNull (r.value? "--ledger.rpc_url")),
    ("request_timeout", match (r.value? "--ledger.timeout").bind Numeral.parseFloat? with
      | some x => .float x
      | none => .null),
    ("onchain_chart", if r.has "--chart.onchain" then .bool true else .null)]

/-- The arguments of a program that takes these options alone. -/
def readOptions (args : List String) : Except Options.Refusal Fields := do
  let r ← (Options.Grammar.mk options .none).read [] args
  if r.surplus then throw .misuse
  return overridesOf r

end Settings
end Plunder
