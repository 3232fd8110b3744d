import ChatRelay.Config.Settings
import ChatRelay.Path
import ChatRelay.Toml.Reader

/-!
# The configuration

The configuration file has a section for the provider and one for the server.
A file that cannot be read, or has a value of the wrong shape, counts as empty;
variables of the environment then override the provider's settings. The file is
in the data directory, like the database.
-/

namespace ChatRelay

open Json (Decoder Fields Value)

/-- Where the server listens. -/
structure ServerConfig where
  host : String := "127.0.0.1"
  port : Nat := 3000
  deriving DecidableEq, Repr

/-- The whole configuration. -/
structure Config where
  ai : AiSettings := {}
  server : ServerConfig := {}
  deriving DecidableEq, Repr

/-- The bound of the port numbers. -/
def portBound : Nat := Nat.pow 2 16

def ServerConfig.toJson (s : ServerConfig) : Value :=
  .object [("host", .text s.host), ("port", .nat s.port)]

def ServerConfig.decoder : Decoder ServerConfig :=
  (ServerConfig.mk <$> Fields.withDefault "host" Decoder.text ({} : ServerConfig).host
    <*> Fields.withDefault "port" (Decoder.below portBound) ({} : ServerConfig).port).decoder

namespace Config

def toJson (c : Config) : Value :=
  .object [("ai", c.ai.toJson), ("server", c.server.toJson)]

def decoder : Decoder Config :=
  (Config.mk <$> Fields.withDefault "ai" AiSettings.decoder {}
    <*> Fields.withDefault "server" ServerConfig.decoder {}).decoder

/-! ## The file -/

/-- The values of the fields of a record with these names: the members of a table, or the items of
a list in this order. Other members and items are passed over, and a date has no members. -/
def fieldsOf? (names : List String) (v : Toml.Value) : Option (List (Option Toml.Value)) :=
  match v with
  | .table members => some (names.map fun n => members.lookup n)
  | .date => some (names.map fun _ => none)
  | .list items => some ((List.range names.length).map fun i => items[i]?)
  | _ => none

/-- The value of a field read with `f`, or its default when it is not there. -/
def field? (f : Toml.Value → Option α) (default : α) : Option Toml.Value → Option α
  | none => some default
  | some v => f v

def text? : Toml.Value → Option String
  | .text s => some s
  | _ => none

def port? : Toml.Value → Option Nat
  | .integer n => if 0 ≤ n ∧ n < portBound then some n.toNat else none
  | _ => none

def settings? (v : Toml.Value) : Option AiSettings := do
  match ← fieldsOf? ["base_url", "api_key", "model"] v with
  | [baseUrl, apiKey, model] =>
    return {
      baseUrl := ← field? (fun v => (text? v).map some) none baseUrl
      apiKey := ← field? (fun v => (text? v).map some) none apiKey
      model := ← field? (fun v => (text? v).map some) none model }
  | _ => none

def server? (v : Toml.Value) : Option ServerConfig := do
  match ← fieldsOf? ["host", "port"] v with
  | [host, port] =>
    return {
      host := ← field? text? ({} : ServerConfig).host host
      port := ← field? port? ({} : ServerConfig).port port }
  | _ => none

/-- The configuration that a text gives, unless there is a fault in it. -/
def ofText? (text : String) : Option Config := do
  let members ← Toml.read? text
  return {
    ai := ← field? settings? {} (members.lookup "ai")
    server := ← field? server? {} (members.lookup "server") }

/-- The configuration of a file, which is given if it can be read as text. -/
def ofFile (text : Option String) : Config :=
  (text.bind ofText?).getD {}

/-! ## The environment -/

def baseUrlVariable : String := "PARLEY_AI_BASE_URL"
def apiKeyVariable : String := "PARLEY_AI_API_KEY"
def modelVariable : String := "PARLEY_AI_MODEL"

/-- The configuration with the settings that variables override. A blank one overrides nothing. -/
def override (c : Config) (environment : String → Option String) : Config :=
  let value (name : String) (old : Option String) : Option String :=
    ((environment name).filter fun v => !Text.isBlank v).orElse fun _ => old
  { c with
    ai := {
      baseUrl := value baseUrlVariable c.ai.baseUrl
      apiKey := value apiKeyVariable c.ai.apiKey
      model := value modelVariable c.ai.model } }

end Config

/-! ## The data directory -/

namespace DataDir

/-- The directory that is named by a text, or the one for hidden data under `home`. Where no home
is known, it is looked for where the program runs. -/
def locate (named home : Option Path) : Path :=
  match named.filter fun dir => dir.text?.isSome with
  | some dir => dir
  | none => (home.getD (.ofText ".")).join (.ofText ".parley")

/-- The directory as it is shown when these texts name it and the home. -/
def resolve (named : Option String) (home : String) : String :=
  (locate (named.map .ofText) (some (.ofText home))).shown

def configName : String := "config.toml"
def databaseName : String := "parley.db"

/-- The file that the configuration is read from. -/
def configFile (dir : Path) : Path :=
  dir.join (.ofText configName)

/-- The address of the database in a directory. -/
def databaseUrl (dir : String) : String :=
  "sqlite://" ++ dir ++ "/" ++ databaseName

/-- The address at which the database is opened, and made if it is not there. -/
def openUrl (dir : Path) : String :=
  databaseUrl dir.shown ++ "?mode=rwc"

end DataDir

/-! ## What is logged -/

/-- Which log lines are wanted when `verbose` was asked for so many times. -/
def logFilter (verbose : Nat) (quiet : Bool) : String :=
  match verbose with
  | 0 => if quiet then "error" else "warn"
  | 1 => "info,parley=debug,parley_core=debug,parley_infra=debug"
  | _ => "trace"

end ChatRelay
