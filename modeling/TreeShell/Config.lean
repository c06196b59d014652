/-
What is fixed about a session before its first line.

A configuration names the user, the text of the user's sample file and the host.
The user's name is also the name of the home directory, so it is one that can
stand in a path as a single segment and on a line as a part of one word; a
configuration cannot be built with any other.
-/
import TreeShell.Listing
import TreeShell.Path
import TreeShell.Text.Quoted

namespace TreeShell

/-- A name for a user: not empty, and free of the slash that separates segments
and of the space that separates words. -/
def UserName (name : String) : Prop :=
  name ≠ "" ∧ '/' ∉ name.toList ∧ ' ' ∉ name.toList

instance (name : String) : Decidable (UserName name) :=
  inferInstanceAs (Decidable (_ ∧ _ ∧ _))

structure Config where
  user : String := "nick"
  about : String := "This shell was created with a bit of JavaScript\n"
  hostname : String := "webshell"
  user_valid : UserName user := by decide
deriving DecidableEq

/-- A configuration is refused for one cause only. -/
structure InvalidUser where
  name : String
deriving DecidableEq

def InvalidUser.message (e : InvalidUser) : String :=
  "Invalid user name: " ++ Text.quote e.name

namespace Config

def standard : Config := {}

def checked (user about hostname : String) : Except InvalidUser Config :=
  if h : UserName user then .ok { user, about, hostname, user_valid := h } else .error ⟨user⟩

/-- The configuration with the given settings; one that is not given is the
standard one. -/
def make (user about hostname : Option String) : Except InvalidUser Config :=
  checked (user.getD standard.user) (about.getD standard.about)
    (hostname.getD standard.hostname)

def userVariable : String := "WEBSHELL_USER"

def aboutVariable : String := "WEBSHELL_ABOUT"

def hostnameVariable : String := "WEBSHELL_HOSTNAME"

def variableNames : List String := [userVariable, aboutVariable, hostnameVariable]

/-- The settings of an environment of named variables.  Other variables are
ignored, and an empty value is a value. -/
def ofEnvironment (environment : Listing String) : Except InvalidUser Config :=
  make (environment.get? userVariable) (environment.get? aboutVariable)
    (environment.get? hostnameVariable)

def home (config : Config) : Path := ["home", config.user]

/-- Only the user's name can be refused, and it is refused exactly when it is
not a user name. -/
theorem checked_isOk_iff (user about hostname : String) :
    (∃ config, checked user about hostname = .ok config) ↔ UserName user := by
  unfold checked
  split
  · next h => exact ⟨fun _ => h, fun _ => ⟨_, rfl⟩⟩
  · next h => exact ⟨fun ⟨_, e⟩ => (nomatch e), fun hv => absurd hv h⟩

theorem checked_eq_error {user about hostname : String} (h : ¬UserName user) :
    checked user about hostname = .error ⟨user⟩ :=
  dif_neg h

/-- A configuration is put together again from its settings. -/
theorem checked_self (config : Config) :
    checked config.user config.about config.hostname = .ok config :=
  dif_pos config.user_valid

end Config
end TreeShell
