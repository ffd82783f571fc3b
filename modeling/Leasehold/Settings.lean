import Leasehold.Duration
/-!
What can be set: how to reach an agent, and how a session times its calls. Everything has a
default, and unset options stay unset.
-/
namespace Leasehold

/-- What the backend does with the keys that a session has locked when the session is lost. -/
inductive Behavior where
  /-- The locks are released and the keys stay. -/
  | release
  /-- The locked keys are deleted. -/
  | delete
deriving DecidableEq, Repr

/-- The name of a behavior in settings and in requests. -/
def Behavior.name : Behavior → String
  | .release => "release"
  | .delete => "delete"

/-- The behavior that has this name. -/
def Behavior.ofName? (name : String) : Option Behavior :=
  if name = "release" then some .release
  else if name = "delete" then some .delete
  else none

theorem Behavior.ofName?_name (behavior : Behavior) : ofName? behavior.name = some behavior := by
  cases behavior <;> rfl

/-- The longest TTL that an agent accepts for a session: one day. -/
def maxSessionTtl : Duration := .seconds 86400

/-- How to reach an agent, and what it is told about the sessions that are made through it. -/
structure AgentSettings where
  /-- The agent's address, as a host and a port. -/
  address : String := "127.0.0.1:8500"
  /-- The scheme of the agent's URL. -/
  scheme : String := "http"
  /-- The datacenter that requests name. -/
  datacenter : Option String := none
  /-- The access token that requests carry. -/
  token : Option String := none
  /-- How long a request may take. -/
  requestTimeout : Duration := .seconds 10
  /-- The behavior of the sessions that are made. -/
  behavior : Behavior := .release
  /-- The lock delay of the sessions that are made. -/
  lockDelay : Duration := .zero
deriving DecidableEq

/-- How a session times its calls. -/
structure SessionSettings where
  /-- The TTL of a lease, where its maker picks none. -/
  ttl : Duration := .seconds 20
  /-- The time between two attempts to create a lease. -/
  retryInterval : Duration := .seconds 1
  /-- The time between two renewals. -/
  renewInterval : Option Duration := none
deriving DecidableEq

/-- Everything that can be set. -/
structure Settings where
  /-- How to reach the agent. -/
  agent : AgentSettings := {}
  /-- How sessions time their calls. -/
  session : SessionSettings := {}
deriving DecidableEq

namespace AgentSettings

/-- Sets the address. -/
def withAddress (settings : AgentSettings) (address : String) : AgentSettings :=
  { settings with address }

/-- Sets the scheme. -/
def withScheme (settings : AgentSettings) (scheme : String) : AgentSettings :=
  { settings with scheme }

/-- Sets the datacenter. -/
def withDatacenter (settings : AgentSettings) (datacenter : String) : AgentSettings :=
  { settings with datacenter := some datacenter }

/-- Sets the access token. -/
def withToken (settings : AgentSettings) (token : String) : AgentSettings :=
  { settings with token := some token }

/-- Sets the time that a request may take. -/
def withRequestTimeout (settings : AgentSettings) (timeout : Duration) : AgentSettings :=
  { settings with requestTimeout := timeout }

/-- The URL below which all requests go: scheme and address, without slashes at the end (`base_url`). -/
def baseUrl (settings : AgentSettings) : List Char :=
  settings.scheme.toList ++ ':' :: '/' :: '/' ::
    (settings.address.toList.reverse.dropWhile (· == '/')).reverse

end AgentSettings

namespace SessionSettings

/-- Sets the TTL. -/
def withTtl (settings : SessionSettings) (ttl : Duration) : SessionSettings :=
  { settings with ttl }

/-- Sets the time between two attempts to create a lease. -/
def withRetryInterval (settings : SessionSettings) (interval : Duration) : SessionSettings :=
  { settings with retryInterval := interval }

/-- Sets the time between two renewals. -/
def withRenewInterval (settings : SessionSettings) (interval : Duration) : SessionSettings :=
  { settings with renewInterval := some interval }

/-- The time between two renewals of a lease with this TTL (`renew_interval_for`): as set, or half the
TTL. -/
def renewIntervalFor (settings : SessionSettings) (ttl : Duration) : Duration :=
  settings.renewInterval.getD ttl.half

end SessionSettings

end Leasehold
