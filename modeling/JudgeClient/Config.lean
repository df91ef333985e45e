import JudgeClient.Error
import JudgeClient.Text.Blank
import JudgeClient.Toml.Reader

/-!
# Configuration

What the client has to know about its surroundings: where the judge's API is, what the site is
called, and how often a pending submission is polled.  A configuration is written in TOML; what it
leaves out has a default, and what it holds besides is ignored.
-/

namespace JudgeClient

/-- The client's surroundings. -/
structure Config where
  /-- The origin of the judge's API, without a slash at its end. -/
  apiServer : String := "http://localhost:12345"
  siteName : String := "Rust Course Online Judge"
  /-- How often a pending submission is polled. -/
  pollIntervalMs : Nat := 1000
deriving DecidableEq, Repr

namespace Config

/-- The origin without the slashes at its end. -/
def trimOrigin (origin : String) : String := String.ofList (Text.dropTrailing '/' origin.toList)

/-- A text entry, or the default if there is none. -/
def textEntry? (key default : String) (entries : Toml.Entries) : Option String :=
  match Toml.Entries.get? key entries with
  | none => some default
  | some (.text s) => some s
  | some _ => none

/-- An entry that is a natural number, or the default if there is none. -/
def natEntry? (key : String) (default : Nat) (entries : Toml.Entries) : Option Nat :=
  match Toml.Entries.get? key entries with
  | none => some default
  | some (.int i) => if 0 ≤ i then some i.toNat else none
  | some _ => none

/-- The configuration in the entries of a document. -/
def ofEntries? (entries : Toml.Entries) : Option Config := do
  let defaults : Config := {}
  return {
    apiServer := trimOrigin (← textEntry? "api_server" defaults.apiServer entries)
    siteName := ← textEntry? "site_name" defaults.siteName entries
    pollIntervalMs := ← natEntry? "poll_interval_ms" defaults.pollIntervalMs entries }

/-- The configuration that a TOML document holds.  If a document is refused, the client shows what
its reader of TOML says about it and where; the constant `malformed TOML` stands here for all such
messages. -/
def ofToml (text : String) : Except Error Config :=
  match (Toml.parse text).bind ofEntries? with
  | some config => .ok config
  | none => .error (Error.addContext ⟨.internal, "malformed TOML"⟩ "parse config")

/-- The configuration with another origin, if one is given. -/
def withApiServer (c : Config) (origin : Option String) : Config :=
  match origin with
  | some origin => { c with apiServer := trimOrigin origin }
  | none => c

/-! ### The configuration in use -/

/-- The document that the client comes with. -/
def bundled : String :=
  "api_server = \"http://localhost:12345\"\n" ++
  "site_name = \"Rust Course Online Judge\"\n" ++
  "poll_interval_ms = 1000\n"

/-- The configuration that the client runs with, which is the one in the bundled document. -/
def current : Config := {}

/-! ### URLs -/

/-- The URL of a path below an origin. -/
def joinOrigin (origin path : String) : String := origin ++ path

/-- The URL of an API path. -/
def apiUrl (path : String) : String := joinOrigin current.apiServer path

end Config

end JudgeClient
