import TrafficFeed.Url.Basic
import TrafficFeed.Url.Percent

/-!
# Passwords of targets

A target can be given another password, or have its own taken away. Only what has a host can have a
password, and nothing within the scheme of files.
-/

namespace TrafficFeed.Url

def password? (u : Url) : Option String := u.authority.bind (·.password)

/-- Whether a target may have a password. -/
def admitsPassword (u : Url) : Bool := u.hostText != "" && u.scheme != "file"

/-- The authority with another password, encoded; an empty one is none. -/
def Authority.withPassword (a : Authority) (password : String) : Authority :=
  { a with
    password :=
      if password = "" then none else some (String.ofList (encode userSet password.toList)) }

/-- The target with another password; `none` if it may have none. -/
def setPassword? (u : Url) (password : String) : Option Url :=
  if u.admitsPassword then
    some { u with authority := u.authority.map fun a => a.withPassword password }
  else none

end TrafficFeed.Url
