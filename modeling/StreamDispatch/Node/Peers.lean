import StreamDispatch.Node.Basic
import StreamDispatch.Net.Uri
import StreamDispatch.Net.Url

/-!
# How workers and power strips answer

The node's answers from the outside world, as functions of the worker or hall addressed.

* A scripted set of workers answers every assignment: the unreachable ones fail as
  unavailable ("connection refused"), the refusing ones refuse, and every other one accepts.
* Workers dialed over the network are reached at `http://{host}:{port}`: an address that is
  no valid URI is an invalid argument; here no worker can be reached, so every valid address
  fails as a transport error.
* A hall's light is switched through the power strip at its `power_ctrl_ip` by a request to
  `http://{ip}/ctrl.htm`: a hall without a strip needs nothing; an address that does not read,
  or whose text without credentials is no valid URI, fails when the request is built; here no
  strip answers, so every other switch fails when the request is sent. Both failures after
  reading name the address as read, its credentials taken off.
-/

namespace StreamDispatch

open Net

/-- Workers that answer by script: unreachable ones fail, refusing ones refuse. -/
def scriptedWorkers (refusing unreachable : List String) : Worker → Job → Except Failure Bool :=
  fun w _ =>
    if unreachable.contains w.id then .error (.relayed ⟨.unavailable, "connection refused"⟩)
    else .ok (!refusing.contains w.id)

/-- The address a worker is dialed at. -/
def workerAddress (host : String) (port : Nat) : String :=
  "http://" ++ host ++ ":" ++ toString port

/-- Workers dialed over a network where none can be reached. -/
def unreachableWorkers (port : Nat) : Worker → Job → Except Failure Bool := fun w _ =>
  let uri := workerAddress w.host port
  if validUri "http" uri then .error (.transport "transport error")
  else .error (.invalidArgument ("bad worker address " ++ uri ++ ": invalid URI"))

/-- The address of a hall's power strip control page. -/
def stripAddress (ip : String) : String := "http://" ++ ip ++ "/ctrl.htm"

/-- Switching lights through power strips, none of which answers. -/
def unreachableStrips (h : Hall) (_on : Bool) : Option Failure :=
  if h.powerCtrlIp.isEmpty then none
  else
    let url := stripAddress h.powerCtrlIp
    match HttpUrl.parse? url with
    | none => some (.actuator (url ++ ": builder error"))
    | some read =>
      let sent := read.withoutCredentials.text
      if validUri "http" sent then
        some (.actuator (url ++ ": error sending request for url (" ++ sent ++ ")"))
      else some (.actuator (url ++ ": builder error for url (" ++ sent ++ ")"))

end StreamDispatch
