import WaybillBoard.Config.Basic
import WaybillBoard.Binary64.Reader
import WaybillBoard.Time.Period
import WaybillBoard.Url.Reader

/-!
Which configurations can be used, and setting one value by its text.
-/

namespace WaybillBoard

inductive TimeoutError
  | period (cause : Time.PeriodError)
  | zero

def TimeoutError.messages : TimeoutError → List String
  | .period cause => cause.messages
  | .zero => ["requestTimeout must be greater than zero"]

/-- A period that is not zero. -/
def readTimeout (text : String) : Except TimeoutError Time.Period :=
  match Time.Period.read text with
  | .error cause => .error (.period cause)
  | .ok period => if period.isZero then .error .zero else .ok period

/-- A threshold is a part of the length of what is searched for. -/
def isThreshold (x : Binary64) : Bool :=
  x.isFinite && !x.lt (.zero false) && !Binary64.lt (.ofNat 1) x

def thresholdMessage (x : Binary64) : String :=
  "search.threshold must be between 0 and 1, got " ++ String.ofList x.text

/-- The first setting that cannot be used. -/
inductive CheckError
  | apiUrl (text : String) (cause : Url.UrlError)
  | requestTimeout (text : String) (cause : TimeoutError)
  | refreshInterval (text : String) (cause : Time.PeriodError)
  | threshold (value : Binary64)

/-- The messages of an error, the outermost first. -/
def CheckError.messages : CheckError → List String
  | .apiUrl text cause => ["apiUrl is not a valid URL: " ++ text, cause.message]
  | .requestTimeout text cause => ("requestTimeout: " ++ text) :: cause.messages
  | .refreshInterval text cause => ("refreshInterval: " ++ text) :: cause.messages
  | .threshold value => [thresholdMessage value]

/-- Why a value was not set. -/
inductive SetError
  | unknownName (name : String)
  | apiUrl (cause : Url.UrlError)
  | requestTimeout (cause : TimeoutError)
  | refreshInterval (cause : Time.PeriodError)
  | noNumber (cause : Binary64.LiteralError)
  | threshold (value : Binary64)
  | noBool (setting : Setting)

def unknownNameMessage (name : String) : String := "Unknown configuration key: " ++ name

/-- The messages of an error, the outermost first. -/
def SetError.messages : SetError → List String
  | .unknownName name => [unknownNameMessage name]
  | .apiUrl cause => ["apiUrl must be an absolute URL", cause.message]
  | .requestTimeout cause =>
    "requestTimeout must be a non-zero duration like '10s' or '500ms'" :: cause.messages
  | .refreshInterval cause =>
    "refreshInterval must be a duration like '30s' ('0s' disables)" :: cause.messages
  | .noNumber cause => ["search.threshold must be a number", cause.message]
  | .threshold value => [thresholdMessage value]
  | .noBool setting =>
    [setting.name ++ " must be 'true' or 'false'",
      "provided string was not \x60true\x60 or \x60false\x60"]

def readBool? (text : String) : Option Bool :=
  if text = "true" then some true else if text = "false" then some false else none

namespace Config

def timeout (c : Config) : Except CheckError Time.Period :=
  (readTimeout c.requestTimeout).mapError (.requestTimeout c.requestTimeout)

/-- The time between two refreshes, if there are to be any. -/
def interval (c : Config) : Except CheckError (Option Time.Period) := do
  let period ← (Time.Period.read c.refreshInterval).mapError (.refreshInterval c.refreshInterval)
  return if period.isZero then none else some period

def check (c : Config) : Except CheckError Unit := do
  let _ ← (Url.read c.apiUrl.toList).mapError (.apiUrl c.apiUrl)
  let _ ← c.timeout
  let _ ← c.interval
  if isThreshold c.threshold then return else throw (.threshold c.threshold)

def setFlag (setting : Setting) (text : String) (put : Bool → Config) : Except SetError Config :=
  match readBool? text with
  | some value => .ok (put value)
  | none => .error (.noBool setting)

/-- Sets one value to what its text says. -/
def set (c : Config) (setting : Setting) (text : String) : Except SetError Config :=
  match setting with
  | .apiUrl => do
    let _ ← (Url.read text.toList).mapError .apiUrl
    return { c with apiUrl := text }
  | .requestTimeout => do
    let _ ← (readTimeout text).mapError .requestTimeout
    return { c with requestTimeout := text }
  | .refreshInterval => do
    let _ ← (Time.Period.read text).mapError .refreshInterval
    return { c with refreshInterval := text }
  | .defaultNamespace => .ok { c with defaultNamespace := text }
  | .threshold => do
    let value ← (Binary64.ofLiteral text.toList).mapError .noNumber
    if isThreshold value then return { c with threshold := value } else throw (.threshold value)
  | .enableMouse => setFlag .enableMouse text fun value => { c with enableMouse := value }
  | .noIcons => setFlag .noIcons text fun value => { c with noIcons := value }

def setNamed (c : Config) (name text : String) : Except SetError Config :=
  match Setting.named? name with
  | some setting => c.set setting text
  | none => .error (.unknownName name)

end Config

end WaybillBoard
